import RecordSieve.Number.Double

/-!
# Numbers

A number is held in one of three representations: a signed word, an unsigned word, or a double.
Comparison is by value and does not see the representation as long as it can help it: two
integers are compared exactly, whichever words hold them, and a pair with a double in it is
compared as doubles, the integer rounded to the nearest one first.
-/

namespace RecordSieve

/-- A number in one of its representations. -/
inductive Number where
  /-- A signed 64-bit integer. -/
  | signed (n : Int64)
  /-- An unsigned 64-bit integer. -/
  | unsigned (n : UInt64)
  /-- A double. -/
  | double (x : Double)
  deriving DecidableEq, Repr

namespace Number

/-- The integer that an integer representation holds. -/
def integer? : Number → Option Int
  | signed n => some n.toInt
  | unsigned n => some n.toNat
  | double _ => none

/-- The number as a double, rounded to the nearest one if need be. -/
def toDouble : Number → Double
  | signed n => .ofInt n.toInt
  | unsigned n => .ofInt n.toNat
  | double x => x

/-- The order of two numbers; none if one of them is NaN. -/
def compare (a b : Number) : Option Ordering :=
  match a.integer?, b.integer? with
  | some m, some n => some (Ord.compare m n)
  | _, _ => a.toDouble.compare b.toDouble

/-- The same representation with the same value in it (so NaN is not identical to itself, and the
two zeros among the doubles are). -/
def identical : Number → Number → Bool
  | signed m, signed n => m = n
  | unsigned m, unsigned n => m = n
  | double x, double y => x.compare y == some .eq
  | _, _ => false

/-- The number that holds an integer: a signed word if it fits one, else an unsigned word if it
fits one. -/
def ofInt? (n : Int) : Option Number :=
  if Int64.minValue.toInt ≤ n ∧ n ≤ Int64.maxValue.toInt then some (signed (Int64.ofInt n))
  else if 0 ≤ n ∧ n < UInt64.size then some (unsigned (UInt64.ofNat n.toNat))
  else none

end Number

/-! ### Integers of programs -/

/-- An integer in one of the types in which programs have integers. -/
inductive MachineInteger where
  /-- A signed 32-bit integer. -/
  | int32 (n : Int32)
  /-- A signed 64-bit integer. -/
  | int64 (n : Int64)
  /-- An unsigned 32-bit integer. -/
  | uint32 (n : UInt32)
  /-- An unsigned 64-bit integer. -/
  | uint64 (n : UInt64)
  /-- An unsigned integer of the size of an address. -/
  | usize (n : USize)

/-- The integer as such. -/
def MachineInteger.toInt : MachineInteger → Int
  | int32 n => n.toInt
  | int64 n => n.toInt
  | uint32 n => n.toNat
  | uint64 n => n.toNat
  | usize n => n.toNat

/-- The number that a program makes of an integer: a word that is signed if the type is. -/
def Number.ofMachine : MachineInteger → Number
  | .int32 n => signed n.toInt64
  | .int64 n => signed n
  | .uint32 n => unsigned n.toUInt64
  | .uint64 n => unsigned n
  | .usize n => unsigned n.toUInt64

end RecordSieve
