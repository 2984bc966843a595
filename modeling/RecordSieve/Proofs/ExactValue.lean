import Mathlib.Algebra.Order.Field.Basic
import Mathlib.Data.Rat.Cast.Order
import Mathlib.Order.Compare
import Mathlib.Order.WithBot
import Mathlib.Tactic.Ring
import RecordSieve.Proofs.Equality

/-!
# Exact values

What a number is worth does not depend on how it is compared. An integer is worth itself. A double
is worth what the binary64 format says: its fraction, with a one in front that only the least
exponent lacks, times a power of two, or one of the two infinities; NaN is worth nothing.

The comparisons of numbers are made in units, which are whole. `Number.value?_eq_ofUnits` says that
units are the same measure: up to infinity, the value of a number is a strictly growing function
of its exact number of units.
-/

namespace RecordSieve

/-- The rationals with two infinities. -/
abbrev ExactValue := WithBot (WithTop ℚ)

/-- A rational as an exact value. -/
def ExactValue.ofRat (q : ℚ) : ExactValue := ((q : WithTop ℚ) : WithBot (WithTop ℚ))

namespace Double

/-- What the format says of a word that stands for a number of finite size. -/
def rational (x : Double) : ℚ :=
  (if x.negative then -1 else 1) *
    (if x.exponent = 0 then x.fraction else 2 ^ 52 + x.fraction : ℕ) *
      2 ^ ((max x.exponent 1 : ℕ) - 1075 : ℤ)

/-- What a double is worth; the greatest exponent is that of the infinities and of NaN. -/
def value? (x : Double) : Option ExactValue :=
  if x.isFinite then some (.ofRat x.rational)
  else if x.fraction = 0 then some (if x.negative then ⊥ else ⊤)
  else none

end Double

/-- What a number is worth. -/
def Number.value? : Number → Option ExactValue
  | .signed n => some (.ofRat n.toInt)
  | .unsigned n => some (.ofRat n.toNat)
  | .double x => x.value?

/-! ### Values by units -/

namespace ExactValue

open Double

/-- The units of infinity. -/
def infinity : Int := (magnitudeOf infinityWord : Nat)

/-- What a number of units is worth; from infinity on, that is infinite. -/
def ofUnits (u : Int) : ExactValue :=
  if u ≤ -infinity then ⊥ else if infinity ≤ u then ⊤ else ofRat (u / unitsOfOne)

/-- Up to infinity, more units are worth more. -/
theorem ofUnits_lt_ofUnits {u v : Int} (hu : -infinity ≤ u) (hv : v ≤ infinity) (h : u < v) :
    ofUnits u < ofUnits v := by
  have hpos : (0 : ℚ) < unitsOfOne := by exact_mod_cast unitsOfOne_pos
  rw [ofUnits, ofUnits, if_neg (show ¬v ≤ -infinity by omega), if_neg (show ¬infinity ≤ u by omega)]
  split_ifs
  · exact WithBot.bot_lt_coe _
  · exact WithBot.bot_lt_coe _
  · exact WithBot.coe_lt_coe.mpr (WithTop.coe_lt_top _)
  · refine WithBot.coe_lt_coe.mpr (WithTop.coe_lt_coe.mpr ?_)
    exact div_lt_div_of_pos_right (by exact_mod_cast h) hpos

/-- Every 64-bit integer is far from infinity. -/
theorem mul_unitsOfOne_lt_infinity {n : Int} (h : n.natAbs ≤ 2 ^ 64) :
    -infinity < n * unitsOfOne ∧ n * unitsOfOne < infinity := by
  obtain ⟨k, hk⟩ : ∃ k : ℕ, k = 1074 := ⟨_, rfl⟩
  have hmagnitude : n.natAbs * unitsOfOne < magnitudeOf infinityWord := by
    have hexponent : infinityWord / 2 ^ 52 = 2047 := by decide
    calc n.natAbs * unitsOfOne ≤ 2 ^ 64 * 2 ^ k := by
          rw [unitsOfOne_eq hk]
          exact Nat.mul_le_mul_right _ h
      _ < 2 ^ 53 * 2 ^ (k + 12) := by
          rw [← Nat.pow_add, ← Nat.pow_add]
          exact Nat.pow_lt_pow_right (by decide) (by omega)
      _ ≤ magnitudeOf infinityWord := two_pow_mul_le_magnitudeOf (by omega)
  rw [mul_unitsOfOne, infinity]
  split_ifs <;> omega

theorem ofUnits_mul_unitsOfOne {n : Int} (h : n.natAbs ≤ 2 ^ 64) :
    ofUnits (n * unitsOfOne) = ofRat n := by
  obtain ⟨hlow, hhigh⟩ := mul_unitsOfOne_lt_infinity h
  have hne : (unitsOfOne : ℚ) ≠ 0 := by exact_mod_cast unitsOfOne_pos.ne'
  rw [ofUnits, if_neg (by omega), if_neg (by omega), Int.cast_mul, Int.cast_natCast,
    mul_div_cancel_right₀ _ hne]

end ExactValue

/-! ### The units of a double -/

namespace Double

open ExactValue

variable {x : Double}

theorem magnitude_eq_mul_pow (x : Double) :
    x.magnitude =
      (if x.exponent = 0 then x.fraction else 2 ^ 52 + x.fraction) *
        2 ^ (max x.exponent 1 - 1) := by
  rw [magnitude, Nat.shiftLeft_eq, Nat.one_shiftLeft]
  split_ifs with he
  · simp [he]
  · rw [Nat.max_eq_left (Nat.one_le_iff_ne_zero.mpr he)]

theorem rational_eq (x : Double) : x.rational = x.units / unitsOfOne := by
  obtain ⟨e, he⟩ : ∃ e, max x.exponent 1 = e + 1 := Nat.exists_eq_add_one.mpr (by omega)
  obtain ⟨k, hk⟩ : ∃ k : ℕ, k = 1074 := ⟨_, rfl⟩
  have hpow : (2 : ℚ) ^ ((max x.exponent 1 : ℕ) - 1075 : ℤ) = 2 ^ e / unitsOfOne := by
    have hexponent : ((max x.exponent 1 : ℕ) - 1075 : ℤ) = (e : ℤ) - k := by omega
    rw [hexponent, zpow_sub₀ two_ne_zero, zpow_natCast, zpow_natCast, unitsOfOne_eq hk,
      Nat.cast_pow, Nat.cast_ofNat]
  rw [rational, hpow, units, magnitude_eq_mul_pow, he, Nat.add_sub_cancel]
  split_ifs <;> push_cast <;> ring

theorem magnitude_le_infinity (hx : x.isNaN = false) : (x.magnitude : Int) ≤ infinity := by
  rw [infinity, magnitude_eq, Int.ofNat_le]
  exact magnitudeOf_mono (unsignedWord_le hx)

/-- Below the word of infinity, doubles are finite. -/
theorem isFinite_iff (h : x.isNaN = false) : x.isFinite = true ↔ x.unsignedWord < infinityWord := by
  have hword := unsignedWord_le h
  have hinfinity : infinityWord = 2047 * 2 ^ 52 := Nat.shiftLeft_eq _ _
  rw [isFinite, exponent_eq, bne_iff_ne]
  omega

theorem magnitude_lt_infinity (hx : x.isNaN = false) (h : x.isFinite = true) :
    (x.magnitude : Int) < infinity := by
  rw [infinity, magnitude_eq, Int.ofNat_lt]
  exact magnitudeOf_strictMono ((isFinite_iff hx).mp h)

theorem magnitude_eq_infinity (hx : x.isNaN = false) (h : ¬x.isFinite = true) :
    (x.magnitude : Int) = infinity := by
  have hword : x.unsignedWord = infinityWord :=
    Nat.le_antisymm (unsignedWord_le hx) (Nat.not_lt.mp fun hlt => h ((isFinite_iff hx).mpr hlt))
  rw [infinity, magnitude_eq, hword]

theorem value?_eq_ofUnits (hx : x.isNaN = false) : x.value? = some (ofUnits x.units) := by
  have hpos : 0 < infinity := by decide +kernel
  rw [value?, ofUnits]
  by_cases hfinite : x.isFinite = true
  · have hbounds : -infinity < x.units ∧ x.units < infinity := by
      have hmagnitude := magnitude_lt_infinity hx hfinite
      rw [units]
      split_ifs <;> omega
    rw [if_pos hfinite, if_neg (by omega), if_neg (by omega), rational_eq]
  · have hfraction : x.fraction = 0 := by
      rw [isFinite, bne_iff_ne, not_not] at hfinite
      simpa [isNaN, hfinite] using hx
    rw [if_neg hfinite, if_pos hfraction, units, magnitude_eq_infinity hx hfinite]
    by_cases hnegative : x.negative = true
    · rw [if_pos hnegative, if_pos hnegative, if_pos le_rfl]
    · rw [if_neg hnegative, if_neg hnegative, if_neg (by omega), if_pos le_rfl]

theorem value?_eq_none (hx : x.isNaN = true) : x.value? = none := by
  rw [isNaN, Bool.and_eq_true, beq_iff_eq, bne_iff_ne] at hx
  rw [value?, isFinite, if_neg (by simp [hx.1]), if_neg hx.2]

end Double

/-! ### The units of a number -/

namespace Number

open ExactValue

/-- The exact number of units of a number, before an integer is rounded. -/
def exactUnits : Number → Int
  | signed n => n.toInt * Double.unitsOfOne
  | unsigned n => n.toNat * Double.unitsOfOne
  | double x => x.units

variable {a b : Number} {m : Int}

theorem exactUnits_of_integer? (h : a.integer? = some m) :
    a.exactUnits = m * Double.unitsOfOne := by
  cases a <;> cases h <;> rfl

theorem exactUnits_of_integer?_eq_none (h : a.integer? = none) : a.exactUnits = a.units := by
  cases a with
  | double x => rfl
  | signed n | unsigned n => cases h

theorem natAbs_le_of_integer? (h : a.integer? = some m) : m.natAbs ≤ 2 ^ 64 := by
  cases a with
  | signed n =>
    cases h
    have hlow := n.le_toInt
    have hhigh := n.toInt_lt
    omega
  | unsigned n =>
    cases h
    have hhigh := n.toNat_lt
    omega
  | double x => cases h

theorem value?_of_integer? (h : a.integer? = some m) : a.value? = some (.ofRat m) := by
  cases a <;> cases h <;> simp [value?]

theorem exactUnits_bounds (h : a.isNaN = false) :
    -infinity ≤ a.exactUnits ∧ a.exactUnits ≤ infinity := by
  cases ha : a.integer? with
  | some m =>
    obtain ⟨hlow, hhigh⟩ := mul_unitsOfOne_lt_infinity (natAbs_le_of_integer? ha)
    rw [exactUnits_of_integer? ha]
    exact ⟨hlow.le, hhigh.le⟩
  | none =>
    have hmagnitude := Double.magnitude_le_infinity ((isNaN_toDouble a).trans h)
    rw [exactUnits_of_integer?_eq_none ha, units, Double.units]
    split_ifs <;> omega

/-- Unless it is NaN, a number is worth what its exact number of units is worth. -/
theorem value?_eq_ofUnits (h : a.isNaN = false) : a.value? = some (ofUnits a.exactUnits) := by
  cases ha : a.integer? with
  | some m =>
    rw [value?_of_integer? ha, exactUnits_of_integer? ha,
      ofUnits_mul_unitsOfOne (natAbs_le_of_integer? ha)]
  | none =>
    cases a with
    | double x => exact Double.value?_eq_ofUnits h
    | signed n | unsigned n => cases ha

theorem value?_eq_none_iff : a.value? = none ↔ a.isNaN = true := by
  cases h : a.isNaN with
  | false => simp [value?_eq_ofUnits h]
  | true =>
    cases a with
    | double x => simp [value?, Double.value?_eq_none h]
    | signed n | unsigned n => cases h

theorem isNaN_of_value? {u : ExactValue} (h : a.value? = some u) : a.isNaN = false := by
  rw [← Bool.not_eq_true, ← value?_eq_none_iff, h]
  exact nofun

theorem value_lt_of_exactUnits_lt {u v : ExactValue} (hu : a.value? = some u)
    (hv : b.value? = some v) (h : a.exactUnits < b.exactUnits) : u < v := by
  have ha := isNaN_of_value? hu
  have hb := isNaN_of_value? hv
  rw [value?_eq_ofUnits ha, Option.some.injEq] at hu
  rw [value?_eq_ofUnits hb, Option.some.injEq] at hv
  rw [← hu, ← hv]
  exact ofUnits_lt_ofUnits (exactUnits_bounds ha).1 (exactUnits_bounds hb).2 h

/-- Values are in the order of the exact numbers of units. -/
theorem cmp_values {u v : ExactValue} (hu : a.value? = some u) (hv : b.value? = some v) :
    cmp u v = cmp a.exactUnits b.exactUnits := by
  rcases lt_trichotomy a.exactUnits b.exactUnits with hlt | heq | hgt
  · rw [hlt.cmp_eq_lt, (value_lt_of_exactUnits_lt hu hv hlt).cmp_eq_lt]
  · have huv : u = v := by
      rw [value?_eq_ofUnits (isNaN_of_value? hu), heq, ← value?_eq_ofUnits (isNaN_of_value? hv),
        hv, Option.some.injEq] at hu
      exact hu.symm
    rw [heq, huv, cmp_self_eq_eq, cmp_self_eq_eq]
  · rw [hgt.cmp_eq_gt, (value_lt_of_exactUnits_lt hv hu hgt).cmp_eq_gt]

end Number

end RecordSieve
