import RecordSieve.Unicode.Name
import RecordSieve.Unicode.Script.First
import RecordSieve.Unicode.Script.Second
import RecordSieve.Unicode.Script.Shared
import RecordSieve.Unicode.Script.Third

/-!
# Scripts by name

The characters of a script, and the characters that are used with it: those of the script itself
and its extensions. What is an extension of some script is shared by named scripts, and no longer by
all of them.
-/

namespace RecordSieve.Unicode

/-- The scripts with a name of their own. -/
def scripts : List Script := scriptsAtoG ++ scriptsHtoM ++ scriptsNtoZ

/-- The names of the characters that many scripts share. -/
def commonNames : List String := ["Common", "Zyyy"]

/-- The names of the marks that take the script of their base. -/
def inheritedNames : List String := ["Inherited", "Zinh", "Qaai"]

/-- The characters of the script of a loose name. -/
def scriptMembers? (name : List Char) : Option Ranges :=
  NamedSet.find? name
    (⟨commonNames, commonScript⟩ :: ⟨inheritedNames, inheritedScript⟩ ::
      scripts.map fun s => ⟨s.names, s.members⟩)

/-- The characters that are used with the script of a loose name. -/
def scriptExtension? (name : List Char) : Option Ranges :=
  let extensions : Ranges := .unions (scripts.map (·.extension))
  if isNamed name commonNames then some (commonScript.diff extensions)
  else if isNamed name inheritedNames then some (inheritedScript.diff extensions)
  else
    (scripts.find? fun s => isNamed name s.names).map fun s => s.members.union s.extension

end RecordSieve.Unicode
