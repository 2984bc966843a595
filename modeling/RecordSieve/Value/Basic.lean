import RecordSieve.Fields
import RecordSieve.Scalar

/-!
# Values

A value is what a record is made of: a scalar, an array of values, or an object whose fields are
values and keep their order.
-/

namespace RecordSieve

/-- A value of a record. -/
inductive Value where
  /-- A value without parts. -/
  | scalar (s : Scalar)
  /-- An array. -/
  | array (items : List Value)
  /-- An object, with its fields in order. -/
  | object (fields : List (String × Value))
  deriving Repr

namespace Value

mutual

/-- Are two values the same? -/
def decEq : (v w : Value) → Decidable (v = w)
  | scalar s, scalar t =>
    if h : s = t then isTrue (congrArg scalar h) else isFalse fun heq => h (scalar.inj heq)
  | array vs, array ws =>
    match decEqItems vs ws with
    | isTrue h => isTrue (congrArg array h)
    | isFalse h => isFalse fun heq => h (array.inj heq)
  | object fields, object others =>
    match decEqFields fields others with
    | isTrue h => isTrue (congrArg object h)
    | isFalse h => isFalse fun heq => h (object.inj heq)
  | scalar _, array _ | scalar _, object _ | array _, scalar _ | array _, object _
  | object _, scalar _ | object _, array _ => isFalse nofun

/-- Are the items of two arrays the same? -/
def decEqItems : (vs ws : List Value) → Decidable (vs = ws)
  | [], [] => isTrue rfl
  | v :: vs, w :: ws =>
    match decEq v w, decEqItems vs ws with
    | isTrue hv, isTrue hvs => isTrue (by rw [hv, hvs])
    | isFalse hv, _ => isFalse fun heq => hv (List.cons.inj heq).1
    | _, isFalse hvs => isFalse fun heq => hvs (List.cons.inj heq).2
  | [], _ :: _ | _ :: _, [] => isFalse nofun

/-- Are the fields of two objects the same? -/
def decEqFields : (fields others : List (String × Value)) → Decidable (fields = others)
  | [], [] => isTrue rfl
  | (key, v) :: fields, (other, w) :: others =>
    match inferInstanceAs (Decidable (key = other)), decEq v w, decEqFields fields others with
    | isTrue hkey, isTrue hv, isTrue hfields => isTrue (by rw [hkey, hv, hfields])
    | isFalse hkey, _, _ => isFalse fun heq => hkey (Prod.mk.inj (List.cons.inj heq).1).1
    | _, isFalse hv, _ => isFalse fun heq => hv (Prod.mk.inj (List.cons.inj heq).1).2
    | _, _, isFalse hfields => isFalse fun heq => hfields (List.cons.inj heq).2
  | [], _ :: _ | _ :: _, [] => isFalse nofun

end

instance : DecidableEq Value := decEq

/-- The scalar that a value is, unless it has parts. -/
def scalar? : Value → Option Scalar
  | scalar s => some s
  | _ => none

/-- The text that a value is. -/
def text? : Value → Option String
  | scalar (.string s) => some s
  | _ => none

/-- The members of an array; other values have none. -/
def members : Value → List Value
  | array items => items
  | _ => []

/-- The value at a key of an object. -/
def field? (key : String) : Value → Option Value
  | object fields => fields.lookup key
  | _ => none

/-- The name of a value's type. -/
def typeName : Value → String
  | scalar .null => "null"
  | scalar (.bool _) => "bool"
  | scalar (.number _) => "number"
  | scalar (.string _) => "string"
  | array _ => "array"
  | object _ => "object"

end Value

end RecordSieve
