import RecordSieve.Number.Double

/-!
# Shortest decimals

A binary floating-point number stands for all reals that round to it, and among these there are
decimals with few digits. The *shortest decimal* of a number has the fewest digits of all decimals
that round to it, and of those with as few it is the one nearest to the number; of two as near, the
one with an even last digit.

For each number of digits the decimals form a grid, so only the two points of the grid next to the
number need to be tried, and they are tried with more and more digits, in whole numbers.
`DecimalFormat` then says how a decimal is written.
-/

namespace RecordSieve

/-- A positive real `num / den`, and the reals around it that round to the same number. -/
structure Rounding where
  /-- The numerator. -/
  num : Nat
  /-- The denominator. -/
  den : Nat
  /-- How far the reals reach below, as a numerator over `den`. -/
  below : Nat
  /-- How far they reach above. -/
  above : Nat
  /-- Do the least and the greatest of these reals count? -/
  closed : Bool

/-- The reals that round to a number given by its fields. `size` is its multiple of the unit that
the naturals `den` make up; half of the distance to the number above, and to the one below, rounds
to it. The distance below a power of two is half of that above. -/
def Rounding.ofFields (size exponent fraction unit : Nat) : Rounding :=
  let step := 1 <<< (exponent - 1)
  ⟨4 * size, 4 * unit, if fraction = 0 && 1 < exponent then step else 2 * step, 2 * step,
    fraction % 2 = 0⟩

/-- The reals that round to the size of a double. -/
def Double.rounding (x : Double) : Rounding :=
  .ofFields x.magnitude x.exponent x.fraction (1 <<< 1074)

/-- The reals that round to the size of a single. -/
def Single.rounding (x : Single) : Rounding :=
  .ofFields x.magnitude x.exponent x.fraction (1 <<< 149)

/-- A decimal in scientific notation: its digits, with a point behind the first one, and the
exponent of ten. -/
structure Decimal where
  /-- The digits, the last of which is not zero unless it is the only one. -/
  digits : List Char
  /-- The exponent of ten. -/
  exponent : Int

/-- The decimal of some multiple of a power of ten. -/
def Decimal.ofMultiple (n : Nat) (exponent : Int) : Decimal :=
  let digits := Nat.toDigits 10 n
  let significant := (digits.reverse.dropWhile (· == '0')).reverse
  ⟨if significant.isEmpty then ['0'] else significant, exponent + digits.length - 1⟩

namespace Rounding

/-- Does a real round to the number, if it lies at some distance on the side that reaches so far? -/
def reaches (r : Rounding) (distance reach : Nat) : Bool :=
  distance < reach || (r.closed && distance = reach)

/-- The exponent of ten of the first digit. Scaled by `10 ^ 400` every double has a whole part, whose
digits can be counted. -/
def exponent (r : Rounding) : Int :=
  ((Nat.toDigits 10 (r.num * Nat.pow 10 400 / r.den)).length : Int) - 401

/-- Of the multiples of a power of ten that round to the number, the one nearest to it. -/
def nearestMultiple? (r : Rounding) (exponent : Int) : Option Nat :=
  let scale := Nat.pow 10 (-exponent).toNat
  let step := Nat.pow 10 exponent.toNat * r.den
  let low := r.num * scale / step
  let toLow := r.num * scale % step
  let toHigh := step - toLow
  let lowFits := r.reaches toLow (r.below * scale)
  let highFits := r.reaches toHigh (r.above * scale)
  let lowFirst := toLow < toHigh || (toLow = toHigh && low % 2 = 0)
  if lowFits && (lowFirst || !highFits) then some low
  else if highFits then some (low + 1)
  else none

/-- The most digits that the shortest decimal of a double can have. -/
def digitLimit : Nat := 17

/-- The shortest decimal that rounds to the number. -/
def shortest? (r : Rounding) : Option Decimal :=
  (List.range digitLimit).findSome? fun further : Nat =>
    let exponent := r.exponent - further
    (r.nearestMultiple? exponent).map fun n => .ofMultiple n exponent

end Rounding

/-- How decimals are written. -/
structure DecimalFormat where
  /-- The least exponent of a decimal that is written without an exponent. -/
  leastPositional : Int
  /-- The greatest exponent of a decimal that is written without an exponent. -/
  greatestPositional : Int

namespace DecimalFormat

/-- The written form of a decimal without an exponent. There is at least one digit on either side
of the point. -/
def positional (d : Decimal) : List Char :=
  if d.exponent < 0 then '0' :: '.' :: List.replicate (-d.exponent - 1).toNat '0' ++ d.digits
  else
    let whole := d.exponent.toNat + 1
    let fraction := d.digits.drop whole
    (d.digits.take whole ++ List.replicate (whole - d.digits.length) '0') ++
      '.' :: (if fraction.isEmpty then ['0'] else fraction)

/-- The written form of a decimal with an exponent, which always has a sign. -/
def scientific (d : Decimal) : List Char :=
  let point := if d.digits.length ≤ 1 then [] else ['.']
  let sign := if d.exponent < 0 then '-' else '+'
  d.digits.take 1 ++ point ++ d.digits.drop 1 ++
    'e' :: sign :: Nat.toDigits 10 d.exponent.natAbs

/-- The written form of a decimal. -/
def write (f : DecimalFormat) (negative : Bool) (d : Decimal) : String :=
  let digits :=
    if f.leastPositional ≤ d.exponent ∧ d.exponent ≤ f.greatestPositional then positional d
    else scientific d
  String.ofList (if negative then '-' :: digits else digits)

end DecimalFormat

/-- The decimal zero. -/
def Decimal.zero : Decimal := ⟨['0'], 0⟩

/-- Doubles from `10 ^ -5` up to below `10 ^ 16` are written without an exponent. -/
def Double.format : DecimalFormat := ⟨-5, 15⟩

/-- Singles from `10 ^ -6` up to below `10 ^ 13` are written without an exponent. -/
def Single.format : DecimalFormat := ⟨-6, 12⟩

/-- The written form of a finite double, by its shortest decimal. -/
def Double.text (x : Double) : String :=
  Double.format.write x.negative
    (if x.magnitude = 0 then .zero else x.rounding.shortest?.getD .zero)

/-- The written form of a finite single, by its shortest decimal. -/
def Single.text (x : Single) : String :=
  Single.format.write x.negative
    (if x.magnitude = 0 then .zero else x.rounding.shortest?.getD .zero)

end RecordSieve
