/-!
# Doubles as exact multiples

A double is its binary64 word. Every finite double is a whole multiple of the smallest positive
one, `2^-1074`, and `Double.units` is that multiple: an exact integer, on which order and equality
of doubles are order and equality of integers. Read by the same rule, the words of the two
infinities are `2^2098` and its negation, which lie beyond every finite double, so the order needs
no case for them. Only NaN, which is unordered, is told apart.

`Double.ofRatio` goes the other way: the double nearest to a quotient of naturals, a tie going to
the even neighbour. It scales the quotient to units, so that rounding is one division, and keeps
as many units as fit 53 binary digits. Products and quotients of doubles are exact quotients of
naturals, rounded in this way.
-/

namespace RecordSieve

/-- The quotient of two naturals rounded to the nearest natural, a half to the even one. -/
def roundDiv (num den : Nat) : Nat :=
  let quotient := num / den
  let twice := 2 * (num % den)
  if twice < den then quotient
  else if den < twice then quotient + 1
  else quotient + quotient % 2

/-- A binary64 number, given by its word: a sign bit, eleven bits of exponent, 52 of fraction. -/
structure Double where
  /-- The word. -/
  bits : UInt64
  deriving DecidableEq, Repr

namespace Double

/-- Is the sign bit set? -/
def negative (x : Double) : Bool := x.bits.toNat >>> 63 == 1

/-- The exponent field. -/
def exponent (x : Double) : Nat := (x.bits.toNat >>> 52) % (1 <<< 11)

/-- The fraction field. -/
def fraction (x : Double) : Nat := x.bits.toNat % (1 <<< 52)

/-- The words that stand for no number. -/
def isNaN (x : Double) : Bool := x.exponent == 2047 && x.fraction != 0

/-- The words that stand for a number of finite size. -/
def isFinite (x : Double) : Bool := x.exponent != 2047

/-- The size of the number in units of `2^-1074`. -/
def magnitude (x : Double) : Nat :=
  if x.exponent = 0 then x.fraction else (1 <<< 52 + x.fraction) <<< (x.exponent - 1)

/-- The number in units of `2^-1074`. -/
def units (x : Double) : Int :=
  if x.negative then -(x.magnitude : Int) else x.magnitude

/-- Doubles are ordered by their exact values; NaN is unordered, and the two zeros are equal. -/
def compare (x y : Double) : Option Ordering :=
  if x.isNaN || y.isNaN then none else some (Ord.compare x.units y.units)

/-! ### Rounding to a double -/

/-- The magnitude word of positive infinity, the least that stands for no finite number. -/
def infinityWord : Nat := 2047 <<< 52

/-- The word, without sign, of the double nearest to `num / den`. With `e` bits of the value in
units cut off, the rest rounds to at most `2^53`; added to `e` in the exponent field it is the
word sought, also where rounding carries into the next power of two. -/
def nearestWord (num den : Nat) : Nat :=
  let scaled := num <<< 1074
  let cut := (scaled / den).log2 - 52
  min (cut <<< 52 + roundDiv scaled (den <<< cut)) infinityWord

/-- The word of a sign bit. -/
def signWord (negative : Bool) : Nat := if negative then 1 <<< 63 else 0

/-- The double nearest to `num / den` or to its negation; infinite if that is out of range. -/
def ofRatio (negative : Bool) (num den : Nat) : Double :=
  ⟨UInt64.ofNat (nearestWord num den + signWord negative)⟩

/-- The double nearest to an integer. -/
def ofInt (n : Int) : Double := ofRatio (n < 0) n.natAbs 1

/-! ### Products and quotients -/

/-- The double nearest to the product of two finite doubles. -/
def mul (x y : Double) : Double :=
  ofRatio (x.negative != y.negative) (x.magnitude * y.magnitude) (1 <<< 2148)

/-- The double nearest to the quotient of two finite doubles, the second of which is not zero. -/
def div (x y : Double) : Double :=
  ofRatio (x.negative != y.negative) x.magnitude y.magnitude

/-- The double with the opposite sign. -/
def neg (x : Double) : Double := ⟨x.bits ^^^ ((1 : UInt64) <<< 63)⟩

end Double

/-! ### Singles -/

/-- A binary32 number, given by its word: a sign bit, eight bits of exponent, 23 of fraction. -/
structure Single where
  /-- The word. -/
  bits : UInt32
  deriving DecidableEq, Repr

namespace Single

/-- Is the sign bit set? -/
def negative (x : Single) : Bool := x.bits.toNat >>> 31 == 1

/-- The exponent field. -/
def exponent (x : Single) : Nat := (x.bits.toNat >>> 23) % (1 <<< 8)

/-- The fraction field. -/
def fraction (x : Single) : Nat := x.bits.toNat % (1 <<< 23)

/-- The words that stand for a number of finite size. -/
def isFinite (x : Single) : Bool := x.exponent != 255

/-- The size of the number in units of `2^-149`. -/
def magnitude (x : Single) : Nat :=
  if x.exponent = 0 then x.fraction else (1 <<< 23 + x.fraction) <<< (x.exponent - 1)

/-- The double of the same value; what is no finite number stays infinite or NaN. -/
def toDouble (x : Single) : Double :=
  if x.isFinite then .ofRatio x.negative x.magnitude (1 <<< 149)
  else
    ⟨UInt64.ofNat (Double.infinityWord + x.fraction <<< 29 + Double.signWord x.negative)⟩

end Single

end RecordSieve
