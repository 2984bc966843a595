import RecordSieve.Number.Shortest
import RecordSieve.Value.Basic

/-!
# Data

Typed data that records are made from. It is wider than records are: integers of any size, floating
point numbers that are not finite, maps with keys of any kind. What a record cannot hold has no
value.
-/

namespace RecordSieve

/-- A piece of typed data. -/
inductive Datum where
  /-- A value of a record. -/
  | value (v : Value)
  /-- A double. -/
  | double (x : Double)
  /-- A single. -/
  | single (x : Single)
  /-- An integer. -/
  | integer (n : Int)
  /-- Nothing, where there may be something. -/
  | absent
  /-- Something, where there may be nothing. -/
  | present (x : Datum)
  /-- A list. -/
  | list (items : List Datum)
  /-- A map, with its entries in order. -/
  | map (entries : List (Datum × Datum))

namespace Datum

/-- The key that a number gives to a field: its digits. What is not finite is no key. -/
def numberKey? : Number → Option String
  | .double x => if x.isFinite then some x.text else none
  | n => n.integer?.map toString

/-- The key that a piece of data gives to a field: a string as it is, a number by its digits, a
truth value by its name. Nothing else is a key, not even a key that is marked as present. -/
def key? : Datum → Option String
  | value (.scalar (.string s)) => some s
  | value (.scalar (.bool b)) => some (if b then "true" else "false")
  | value (.scalar (.number n)) => numberKey? n
  | double x => numberKey? (.double x)
  | single x => if x.isFinite then some x.text else none
  | integer n => some (toString n)
  | _ => none

/-- The value of a double; one that is not finite becomes null. -/
def doubleValue (x : Double) : Value :=
  .scalar (if x.isFinite then .number (.double x) else .null)

mutual

/-- The value that a piece of data becomes in a record. Of entries with the same key the last value
is kept at the first place. -/
def value? : Datum → Option Value
  | value v => some v
  | double x => some (doubleValue x)
  | single x => some (doubleValue x.toDouble)
  | integer n => (Number.ofInt? n).map fun n => .scalar (.number n)
  | absent => some (.scalar .null)
  | present x => x.value?
  | list items => (values? items).map .array
  | map entries => (fields? entries).map fun pairs => .object (Fields.ofPairs pairs)

/-- The values that the data of a list become. -/
def values? : List Datum → Option (List Value)
  | [] => some []
  | x :: xs => do return (← x.value?) :: (← values? xs)

/-- The pairs of key and value that the entries of a map become. -/
def fields? : List (Datum × Datum) → Option (List (String × Value))
  | [] => some []
  | (k, x) :: rest => do return (← k.key?, ← x.value?) :: (← fields? rest)

end

end Datum

end RecordSieve
