import RecordSieve.Unicode.Ranges

/-!
# Scripts

A script is the characters that some languages are written in. A character that is used in several
scripts belongs to one of them, or to none in particular, and is an *extension* of the others.
-/

namespace RecordSieve.Unicode

/-- A script: its names, its characters, and the characters of other scripts that are used with
it. -/
structure Script where
  /-- The names, long and short. -/
  names : List String
  /-- The characters of the script. -/
  members : Ranges
  /-- The extensions. -/
  extension : Ranges

end RecordSieve.Unicode
