import RecordSieve.Proofs.ByExample
import RecordSieve.Proofs.JsonNumber

/-!
# JSON

Criteria can be written as JSON, and records come as JSON as well. A JSON value is built like a
value of a record; only its numbers are numbers of JSON. What a record has of it (`Json.value`) is
thus the same value with the numbers represented, and its criterion is the one that this value
writes.

The other way round, a criterion can be *read back* (`Criterion.json?`): what its accessors show is
a scalar, a list of criteria, or criteria by key, and these are null, a truth value, a number, a
text, an array or an object again. Only a pattern is nothing of that kind. **`json?_ofValue`** says
that the criterion of a JSON value reads back as that value.
-/

namespace RecordSieve

/-- A JSON value. -/
inductive Json where
  /-- Null. -/
  | null
  /-- A truth value. -/
  | bool (b : Bool)
  /-- A number. -/
  | number (n : JsonNumber)
  /-- A text. -/
  | string (s : String)
  /-- An array. -/
  | array (items : List Json)
  /-- An object, with its fields in order. -/
  | object (fields : List (String × Json))
  deriving Inhabited, Repr

namespace Json

mutual

/-- The value that a record has of a JSON value. -/
def value : Json → Value
  | null => .scalar .null
  | bool b => .scalar (.bool b)
  | number n => .scalar (.number (.ofJson n))
  | string s => .scalar (.string s)
  | array items => .array (values items)
  | object fields => .object (fieldValues fields)

/-- The values that a record has of the items of an array. -/
def values : List Json → List Value
  | [] => []
  | j :: js => j.value :: values js

/-- The fields that a record has of an object. -/
def fieldValues : List (String × Json) → List (String × Value)
  | [] => []
  | (key, j) :: rest => (key, j.value) :: fieldValues rest

end

/-- In each object inside the value, however deep, no key occurs twice. -/
inductive KeysDistinct : Json → Prop
  | null : KeysDistinct .null
  | bool (b : Bool) : KeysDistinct (.bool b)
  | number (n : JsonNumber) : KeysDistinct (.number n)
  | string (s : String) : KeysDistinct (.string s)
  | array {items : List Json} : (∀ j ∈ items, KeysDistinct j) → KeysDistinct (.array items)
  | object {fields : Fields Json} : (Fields.keys fields).Nodup → (∀ e ∈ fields, KeysDistinct e.2) →
      KeysDistinct (.object fields)

theorem values_eq_map (items : List Json) : values items = items.map value := by
  induction items with
  | nil => rfl
  | cons j js ih => rw [values, ih, List.map_cons]

theorem fieldValues_eq_map (fields : Fields Json) :
    fieldValues fields = fields.map fun e => (e.1, e.2.value) := by
  induction fields with
  | nil => rfl
  | cons e rest ih => rw [fieldValues, ih, List.map_cons]

theorem value_array (items : List Json) : (array items).value = .array (items.map value) := by
  rw [value, values_eq_map]

theorem value_object (fields : Fields Json) :
    (object fields).value = .object (fields.map fun e => (e.1, e.2.value)) := by
  rw [value, fieldValues_eq_map]

end Json

/-! ### Reading back -/

/-- A scalar as JSON; a number that is no finite number is none. -/
def Scalar.json? : Scalar → Option Json
  | null => some .null
  | bool b => some (.bool b)
  | number n => n.json?.map .number
  | string s => some (.string s)

namespace Criterion

mutual

/-- The JSON value that a criterion reads back as. -/
def json? : Criterion → Option Json
  | literal s => s.json?
  | pattern _ => none
  | list cs => (jsons? cs).map .array
  | nested entries => (jsonFields? entries).map .object

/-- The JSON values that the elements of a list read back as. -/
def jsons? : List Criterion → Option (List Json)
  | [] => some []
  | c :: cs => do return (← c.json?) :: (← jsons? cs)

/-- The fields that entries read back as. -/
def jsonFields? : List (String × Criterion) → Option (List (String × Json))
  | [] => some []
  | (key, c) :: rest => do return (key, ← c.json?) :: (← jsonFields? rest)

end

/-- What the accessors of a criterion show, as JSON, where `read` reads what is inside. -/
def shown? (read : Criterion → Option Json) (c : Criterion) : Option Json :=
  match c.scalar?, c.list?, c.criteria? with
  | some s, _, _ => s.json?
  | _, some cs, _ => (cs.mapM read).map .array
  | _, _, some q => (q.mapM fun e => (read e.2).map (e.1, ·)).map .object
  | none, none, none => none

theorem jsons?_eq_mapM (cs : List Criterion) : jsons? cs = cs.mapM json? := by
  induction cs with
  | nil => rfl
  | cons c cs ih => rw [jsons?, ih, List.mapM_cons]

theorem jsonFields?_eq_mapM (entries : Criteria) :
    jsonFields? entries = entries.mapM fun e => e.2.json?.map (e.1, ·) := by
  induction entries with
  | nil => rfl
  | cons e rest ih =>
    rw [jsonFields?, ih, List.mapM_cons]
    cases e.2.json? <;> rfl

/-- A criterion is read back through its accessors, from the outside to the inside. -/
theorem json?_eq_shown? (c : Criterion) : c.json? = c.shown? json? := by
  cases c with
  | literal s => rfl
  | pattern p => rfl
  | list cs =>
    rw [json?, jsons?_eq_mapM]
    rfl
  | nested entries =>
    rw [json?, jsonFields?_eq_mapM]
    rfl

end Criterion

/-- Where each element is read as itself, so is the list. -/
theorem mapM_eq_some_self {α : Type} {read : α → Option α} {xs : List α}
    (h : ∀ x ∈ xs, read x = some x) : xs.mapM read = some xs := by
  induction xs with
  | nil => rfl
  | cons x xs ih =>
    obtain ⟨hx, hxs⟩ := List.forall_mem_cons.mp h
    rw [List.mapM_cons, hx, ih hxs]
    rfl

/-- **The criterion of a JSON value reads back as that value.** -/
theorem Json.KeysDistinct.json?_ofValue {j : Json} (h : j.KeysDistinct) :
    (Criterion.ofValue j.value).json? = some j := by
  induction h with
  | null => rfl
  | bool b => rfl
  | number n => exact congrArg (Option.map Json.number) (Number.json?_ofJson n)
  | string s => rfl
  | @array items _ ih =>
    have hitems : ((items.map value).map Criterion.ofValue).mapM Criterion.json? = some items := by
      rw [List.mapM_map, List.mapM_map]
      exact mapM_eq_some_self ih
    rw [value_array, Criterion.ofValue_array, Criterion.json?, Criterion.jsons?_eq_mapM, hitems]
    rfl
  | @object fields hnodup _ ih =>
    have hkeys : (Fields.keys (fields.map fun e => (e.1, e.2.value))).Nodup :=
      Fields.keys_map value fields ▸ hnodup
    have hentry (e : String × Json) (he : e ∈ fields) :
        (Criterion.ofValue e.2.value).json?.map (e.1, ·) = some e := by
      rw [ih e he, Option.map_some]
    rw [value_object, Criterion.ofValue_object hkeys, Criterion.json?,
      Criterion.jsonFields?_eq_mapM, List.mapM_map, List.mapM_map]
    exact congrArg (Option.map Json.object) (mapM_eq_some_self hentry)

end RecordSieve
