import RecordSieve.Number.Basic

/-!
# Scalars

The atoms of records and criteria. Two scalars are *ordered* only if they have the same type and
are not null: numbers by value, strings by code point (which is also the order of their UTF-8
bytes), `false` before `true`. They are *equal* if both are null or if they are ordered and
neither comes first; null is thus equal to itself and ordered against nothing.
-/

namespace RecordSieve

/-- A value without parts. -/
inductive Scalar where
  /-- The null value. -/
  | null
  /-- A truth value. -/
  | bool (b : Bool)
  /-- A number. -/
  | number (n : Number)
  /-- A text. -/
  | string (s : String)
  deriving DecidableEq, Repr

namespace Scalar

/-- The order of two scalars, where there is one. -/
def compare : Scalar → Scalar → Option Ordering
  | bool a, bool b => some (Ord.compare a b)
  | number a, number b => a.compare b
  | string a, string b => some (Ord.compare a b)
  | _, _ => none

/-- Equality by type and value; numbers of different representations may be equal. -/
def strictEq : Scalar → Scalar → Bool
  | null, null => true
  | a, b => a.compare b == some .eq

/-- Equality that also tells the representations of a number apart. -/
def identical : Scalar → Scalar → Bool
  | null, null => true
  | bool a, bool b => a = b
  | number a, number b => a.identical b
  | string a, string b => a = b
  | _, _ => false

end Scalar

end RecordSieve
