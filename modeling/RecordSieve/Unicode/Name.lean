import RecordSieve.Unicode.Ranges

/-!
# Names of sets

The sets of the Unicode standard have a long name, a short one, and some of them others. Names are
compared loosely: letter case, blanks, hyphens and low lines do not matter, nor does an "is" in
front.
-/

namespace RecordSieve.Unicode

/-- A set of code points with its names. -/
structure NamedSet where
  /-- The names. -/
  names : List String
  /-- The code points. -/
  members : Ranges

/-- What counts of a name. The name `isc` is left as it is: taken without its front it would be that
of another set. -/
def looseName (name : List Char) : List Char :=
  let plain (name : List Char) : List Char :=
    (name.filter fun c => c.toNat < 128 && c != ' ' && c != '_' && c != '-').map Char.toLower
  match name with
  | i :: s :: rest =>
    if i.toLower = 'i' && s.toLower = 's' then
      if plain rest = ['c'] then ['i', 's', 'c'] else plain rest
    else plain name
  | _ => plain name

/-- Is a loose name one of some names? -/
def isNamed (name : List Char) (names : List String) : Bool :=
  names.any fun other => looseName other.toList == name

/-- The set of a loose name in a list of sets. -/
def NamedSet.find? (name : List Char) (sets : List NamedSet) : Option Ranges :=
  (List.find? (fun s : NamedSet => isNamed name s.names) sets).map (·.members)

end RecordSieve.Unicode
