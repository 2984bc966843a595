import RecordSieve.Unicode.Age.Early
import RecordSieve.Unicode.Age.Late
import RecordSieve.Unicode.Name

/-!
# Age

The age of a code point is the version of the standard in which it was assigned.
-/

namespace RecordSieve.Unicode

/-- The names of a version, as in `6.3` and `V6_3`. -/
def Version.names (v : Version) : List String :=
  let major := toString v.major
  let minor := toString v.minor
  [major ++ "." ++ minor, "V" ++ major ++ "_" ++ minor]

/-- All versions, in their order. -/
def versions : List Version := earlyVersions ++ lateVersions

/-- The code points that were added up to the version of a loose name. -/
def addedUpTo? (name : List Char) : List Version → Option Ranges
  | [] => none
  | v :: later =>
    if isNamed name v.names then some v.added else (addedUpTo? name later).map v.added.union

end RecordSieve.Unicode
