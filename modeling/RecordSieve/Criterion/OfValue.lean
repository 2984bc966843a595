import RecordSieve.Criterion.Basic
import RecordSieve.Value.Reader

/-!
# Criteria written as values

Criteria can be written as a value: scalars are literals, arrays are lists, and objects are nested
criteria, key for key. At the root an object is required. Criteria written as text are read as a
value first.
-/

namespace RecordSieve

namespace Criterion

mutual

/-- The criterion that a value writes. -/
def ofValue : Value → Criterion
  | .scalar s => literal s
  | .array items => list (ofValues items)
  | .object fields => nested (Fields.ofPairs (ofFields fields))

/-- The criteria that the items of an array write. -/
def ofValues : List Value → List Criterion
  | [] => []
  | v :: vs => ofValue v :: ofValues vs

/-- The entries that the fields of an object write. -/
def ofFields : List (String × Value) → List (String × Criterion)
  | [] => []
  | (key, v) :: rest => (key, ofValue v) :: ofFields rest

end

end Criterion

/-- Why a value or a text writes no criteria. -/
inductive SourceError where
  /-- The text is malformed. -/
  | malformed
  /-- The value is of some other type than object. -/
  | notAnObject (actual : Value)

/-- The text of an error, where `complaint` is what a reader of JSON has to say of a malformed
text. -/
def SourceError.message (complaint : String) : SourceError → String
  | malformed => "invalid json: " ++ complaint
  | notAnObject actual => "criteria must be a JSON object, got " ++ actual.typeName

namespace Criteria

/-- How many arrays and objects may be open at once in the text of criteria. -/
def depthLimit : Nat := 127

/-- The criteria that a value writes. -/
def ofValue : Value → Except SourceError Criteria
  | .object fields => .ok (Fields.ofPairs (Criterion.ofFields fields))
  | v => .error (.notAnObject v)

/-- The criteria that a text writes. -/
def ofText (text : String) : Except SourceError Criteria :=
  match Value.ofText? depthLimit text with
  | some v => ofValue v
  | none => .error .malformed

end Criteria

end RecordSieve
