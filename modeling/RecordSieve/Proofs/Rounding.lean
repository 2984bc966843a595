import Mathlib.Algebra.Order.Group.Nat
import RecordSieve.Number.Double

/-!
# Rounding to doubles

An integer that takes part in a comparison with a double is rounded to a double first. What can
be said of that comparison depends on two facts about rounding. It keeps the order: a larger
integer is never rounded to a smaller double. And it is exact as far as 53 binary digits reach,
so that below `2^53` no two integers are rounded to the same double.

Both are shown for the words of doubles. Words without sign stand in the same order as the numbers
they are the words of (`magnitudeOf`), and the word nearest to a quotient in units (`quotientWord`),
or to a whole number of them (`wordOf`), grows with that number: with as many bits cut off, the rest
is rounded in order, and where more bits are cut off, the exponent field alone is greater. For the
same reason a quotient stays finite if it is not greater than some finite double.
-/

namespace RecordSieve

/-! ### Rounded quotients -/

theorem div_le_div_of_mul_le {m n den den' : Nat} (hden : 0 < den) (hden' : 0 < den')
    (h : m * den' ≤ n * den) : m / den ≤ n / den' := by
  rw [Nat.le_div_iff_mul_le hden']
  refine Nat.le_of_mul_le_mul_right ?_ hden
  calc m / den * den' * den = m / den * den * den' := Nat.mul_right_comm _ _ _
    _ ≤ m * den' := Nat.mul_le_mul_right _ (Nat.div_mul_le_self m den)
    _ ≤ n * den := h

/-- A quotient that is no greater is rounded to no greater number. -/
theorem roundDiv_le_roundDiv {m n den den' : Nat} (hden : 0 < den) (hden' : 0 < den')
    (h : m * den' ≤ n * den) : roundDiv m den ≤ roundDiv n den' := by
  rcases Nat.lt_or_eq_of_le (div_le_div_of_mul_le hden hden' h) with hlt | heq
  · simp only [roundDiv]
    split_ifs <;> omega
  · -- With the same quotient, the remainders are in the order of the quotients.
    have hrest : m % den * den' ≤ n % den' * den := by
      have hm := Nat.div_add_mod m den
      have hn := Nat.div_add_mod n den'
      rw [← hm, ← hn, ← heq, Nat.add_mul, Nat.add_mul, Nat.mul_right_comm den',
        Nat.mul_right_comm den, Nat.mul_comm den' den] at h
      exact Nat.le_of_add_le_add_left h
    have htwice : 2 * (m % den) * den' ≤ 2 * (n % den') * den := by
      rw [Nat.mul_assoc, Nat.mul_assoc]
      exact Nat.mul_le_mul_left 2 hrest
    have hhalf (hle : den ≤ 2 * (m % den)) : den' ≤ 2 * (n % den') := by
      refine Nat.le_of_mul_le_mul_left ?_ hden
      rw [Nat.mul_comm den (2 * _)]
      exact (Nat.mul_le_mul_right den' hle).trans htwice
    have hmore (hlt : den < 2 * (m % den)) : den' < 2 * (n % den') := by
      refine Nat.lt_of_mul_lt_mul_left (a := den) ?_
      rw [Nat.mul_comm den (2 * _)]
      exact (Nat.mul_lt_mul_of_pos_right hlt hden').trans_le htwice
    simp only [roundDiv, ← heq]
    split_ifs <;> omega

theorem roundDiv_mono {m n den : Nat} (hden : 0 < den) (h : m ≤ n) :
    roundDiv m den ≤ roundDiv n den :=
  roundDiv_le_roundDiv hden hden (Nat.mul_le_mul_right den h)

theorem roundDiv_of_dvd {m den : Nat} (hden : 0 < den) (h : den ∣ m) :
    roundDiv m den = m / den := by
  simp [roundDiv, Nat.mod_eq_zero_of_dvd h, hden]

theorem roundDiv_mul_self {den : Nat} (n : Nat) (hden : 0 < den) : roundDiv (n * den) den = n := by
  rw [roundDiv_of_dvd hden (Nat.dvd_mul_left den n), Nat.mul_div_cancel n hden]

namespace Double

/-! ### Words without sign -/

/-- The size, in units, of the double with a word without sign. -/
def magnitudeOf (w : Nat) : Nat :=
  if w / 2 ^ 52 = 0 then w % 2 ^ 52 else (2 ^ 52 + w % 2 ^ 52) * 2 ^ (w / 2 ^ 52 - 1)

/-- How many bits of a number of units are cut off, so that at most 53 are left. -/
def cutOf (u : Nat) : Nat := u.log2 - 52

/-- The word nearest to a number of units, however large. -/
def wordOf (u : Nat) : Nat := cutOf u * 2 ^ 52 + roundDiv u (2 ^ cutOf u)

/-- The word nearest to a quotient in units, however large. -/
def quotientWord (num den : Nat) : Nat :=
  cutOf (num / den) * 2 ^ 52 + roundDiv num (den * 2 ^ cutOf (num / den))

theorem quotientWord_one (u : Nat) : quotientWord u 1 = wordOf u := by
  rw [quotientWord, wordOf, Nat.div_one, Nat.one_mul]

/-- Doubling carries from the fraction into the exponent. -/
theorem two_pow_53_mul (k : Nat) : 2 ^ 53 * 2 ^ k = 2 ^ 52 * 2 ^ (k + 1) := by
  rw [← Nat.pow_add, ← Nat.pow_add, Nat.add_comm k, ← Nat.add_assoc]

theorem magnitudeOf_lt (w : Nat) : magnitudeOf w < 2 ^ 52 * 2 ^ (w / 2 ^ 52) := by
  have hfraction : w % 2 ^ 52 < 2 ^ 52 := Nat.mod_lt _ (by decide)
  rw [magnitudeOf]
  split_ifs with he
  · rw [he]
    omega
  · obtain ⟨e, he⟩ := Nat.exists_eq_succ_of_ne_zero he
    rw [he, Nat.succ_eq_add_one, ← two_pow_53_mul, Nat.add_sub_cancel]
    exact Nat.mul_lt_mul_of_pos_right (by omega) (Nat.two_pow_pos e)

theorem le_magnitudeOf {w : Nat} (h : w / 2 ^ 52 ≠ 0) :
    2 ^ 52 * 2 ^ (w / 2 ^ 52 - 1) ≤ magnitudeOf w := by
  rw [magnitudeOf, if_neg h]
  exact Nat.mul_le_mul_right _ (Nat.le_add_right _ _)

theorem two_pow_mul_le_magnitudeOf {k w : Nat} (h : k + 2 ≤ w / 2 ^ 52) :
    2 ^ 53 * 2 ^ k ≤ magnitudeOf w := by
  rw [two_pow_53_mul]
  exact (Nat.mul_le_mul_left _ (Nat.pow_le_pow_right (by decide) (by omega))).trans
    (le_magnitudeOf (by omega))

/-- Words are in the order of their magnitudes. -/
theorem magnitudeOf_strictMono {v w : Nat} (h : v < w) : magnitudeOf v < magnitudeOf w := by
  have hle : v / 2 ^ 52 ≤ w / 2 ^ 52 := Nat.div_le_div_right h.le
  rcases Nat.lt_or_eq_of_le hle with hlt | heq
  · -- A greater exponent outweighs any fraction.
    calc magnitudeOf v < 2 ^ 52 * 2 ^ (v / 2 ^ 52) := magnitudeOf_lt v
      _ ≤ 2 ^ 52 * 2 ^ (w / 2 ^ 52 - 1) :=
        Nat.mul_le_mul_left _ (Nat.pow_le_pow_right (by decide) (by omega))
      _ ≤ magnitudeOf w := le_magnitudeOf (by omega)
  · have hfraction : v % 2 ^ 52 < w % 2 ^ 52 := by omega
    rw [magnitudeOf, magnitudeOf, heq]
    split_ifs
    · exact hfraction
    · exact Nat.mul_lt_mul_of_pos_right (by omega) (Nat.two_pow_pos _)

theorem magnitudeOf_mono {v w : Nat} (h : v ≤ w) : magnitudeOf v ≤ magnitudeOf w := by
  rcases Nat.lt_or_eq_of_le h with hlt | rfl
  · exact (magnitudeOf_strictMono hlt).le
  · exact Nat.le_refl _

/-! ### The word nearest to a number of units -/

theorem lt_two_pow_cutOf (u : Nat) : u < 2 ^ 53 * 2 ^ cutOf u := by
  rw [← Nat.pow_add]
  refine Nat.lt_of_lt_of_le Nat.lt_log2_self (Nat.pow_le_pow_right (by decide) ?_)
  rw [cutOf]
  omega

theorem two_pow_cutOf_le {u : Nat} (h : cutOf u ≠ 0) : 2 ^ 52 * 2 ^ cutOf u ≤ u := by
  have hlog : u.log2 = 52 + cutOf u := by
    rw [cutOf] at h ⊢
    omega
  have hne : u ≠ 0 := by
    rintro rfl
    exact h rfl
  rw [← Nat.pow_add, ← hlog]
  exact Nat.log2_self_le hne

theorem cutOf_mono {u v : Nat} (h : u ≤ v) : cutOf u ≤ cutOf v := by
  by_cases hu : cutOf u = 0
  · omega
  · by_contra hlt
    have hpow : 2 ^ 53 * 2 ^ cutOf v ≤ 2 ^ 52 * 2 ^ cutOf u := by
      rw [← Nat.pow_add, ← Nat.pow_add]
      exact Nat.pow_le_pow_right (by decide) (by omega)
    have hlow := two_pow_cutOf_le hu
    have hhigh := lt_two_pow_cutOf v
    omega

/-- A quotient that is no greater has no greater word. -/
theorem quotientWord_le_quotientWord {m n den den' : Nat} (hden : 0 < den) (hden' : 0 < den')
    (h : m * den' ≤ n * den) : quotientWord m den ≤ quotientWord n den' := by
  have hpos (k : Nat) : 0 < den * 2 ^ k := Nat.mul_pos hden (Nat.two_pow_pos k)
  have hpos' (k : Nat) : 0 < den' * 2 ^ k := Nat.mul_pos hden' (Nat.two_pow_pos k)
  rw [quotientWord, quotientWord]
  rcases Nat.lt_or_eq_of_le (cutOf_mono (div_le_div_of_mul_le hden hden' h)) with hlt | heq
  · -- The rest of the one is at most `2 ^ 53`, and that of the other at least `2 ^ 52`.
    have hm : roundDiv m (den * 2 ^ cutOf (m / den)) ≤ 2 ^ 53 := by
      rw [← roundDiv_mul_self (2 ^ 53) (hpos _)]
      refine roundDiv_mono (hpos _) ?_
      rw [Nat.mul_left_comm, Nat.mul_comm den]
      exact ((Nat.div_lt_iff_lt_mul hden).mp (lt_two_pow_cutOf _)).le
    have hn : 2 ^ 52 ≤ roundDiv n (den' * 2 ^ cutOf (n / den')) := by
      rw [← roundDiv_mul_self (2 ^ 52) (hpos' _)]
      refine roundDiv_mono (hpos' _) ?_
      rw [Nat.mul_left_comm, Nat.mul_comm den']
      exact (Nat.le_div_iff_mul_le hden').mp (two_pow_cutOf_le (by omega))
    omega
  · rw [heq]
    refine Nat.add_le_add_left (roundDiv_le_roundDiv (hpos _) (hpos' _) ?_) _
    rw [← Nat.mul_assoc, ← Nat.mul_assoc]
    exact Nat.mul_le_mul_right _ h

/-- More units have no smaller word. -/
theorem wordOf_mono {u v : Nat} (h : u ≤ v) : wordOf u ≤ wordOf v := by
  rw [← quotientWord_one, ← quotientWord_one]
  exact quotientWord_le_quotientWord Nat.one_pos Nat.one_pos (Nat.mul_le_mul_right 1 h)

/-- What loses nothing when bits are cut off is the magnitude of its word. -/
theorem magnitudeOf_wordOf {u : Nat} (h : 2 ^ cutOf u ∣ u) : magnitudeOf (wordOf u) = u := by
  obtain ⟨rest, hrest⟩ := h
  have hpos : 0 < 2 ^ cutOf u := Nat.two_pow_pos _
  have hround : roundDiv u (2 ^ cutOf u) = rest := by
    rw [roundDiv_of_dvd hpos ⟨rest, hrest⟩]
    exact Nat.div_eq_of_eq_mul_right hpos hrest
  have hhigh : rest < 2 ^ 53 := by
    refine Nat.lt_of_mul_lt_mul_right (a := 2 ^ cutOf u) ?_
    rw [Nat.mul_comm rest, ← hrest]
    exact lt_two_pow_cutOf u
  rw [wordOf, hround, magnitudeOf]
  by_cases hcut : cutOf u = 0
  · -- Nothing is cut off, and the word is the number of units itself.
    have hunits : u = rest := by simpa [hcut] using hrest
    rw [hcut, hunits]
    split_ifs with he
    · omega
    · have he1 : (0 * 2 ^ 52 + rest) / 2 ^ 52 = 1 := by omega
      rw [he1]
      omega
  · -- The highest bit of the rest is carried into the exponent.
    have hlow : 2 ^ 52 ≤ rest := by
      refine Nat.le_of_mul_le_mul_right ?_ hpos
      rw [Nat.mul_comm rest, ← hrest]
      exact two_pow_cutOf_le hcut
    have he : (cutOf u * 2 ^ 52 + rest) / 2 ^ 52 = cutOf u + 1 := by omega
    have hfraction : 2 ^ 52 + (cutOf u * 2 ^ 52 + rest) % 2 ^ 52 = rest := by omega
    rw [he, if_neg (Nat.succ_ne_zero _), hfraction, Nat.add_sub_cancel, Nat.mul_comm, ← hrest]

/-- Nothing is lost of a number of at most 53 binary digits, whatever its exponent. -/
theorem two_pow_cutOf_dvd {n : Nat} (h : n ≤ 2 ^ 53) (k : Nat) :
    2 ^ cutOf (n * 2 ^ k) ∣ n * 2 ^ k := by
  by_cases hle : cutOf (n * 2 ^ k) ≤ k
  · exact Nat.dvd_mul_left_of_dvd (Nat.pow_dvd_pow 2 hle) n
  · -- Only of `2 ^ 53` itself is one bit more cut off, and that bit is zero.
    have hlow := two_pow_cutOf_le (u := n * 2 ^ k) (by omega)
    have hn : n * 2 ^ k = 2 ^ 52 * 2 ^ (k + 1) := by
      refine Nat.le_antisymm ?_ ?_
      · rw [← two_pow_53_mul]
        exact Nat.mul_le_mul_right _ h
      · exact (Nat.mul_le_mul_left _ (Nat.pow_le_pow_right (by decide) (by omega))).trans hlow
    have hcut : cutOf (n * 2 ^ k) ≤ k + 1 := by
      have hpow := Nat.le_of_mul_le_mul_left (hlow.trans hn.le) (by decide)
      exact (Nat.pow_le_pow_iff_right (by decide)).mp hpow
    rw [hn] at hcut ⊢
    exact Nat.dvd_mul_left_of_dvd (Nat.pow_dvd_pow 2 hcut) _

/-- Every word is the one nearest to its own magnitude. -/
theorem wordOf_magnitudeOf (w : Nat) : wordOf (magnitudeOf w) = w := by
  have hexact : magnitudeOf (wordOf (magnitudeOf w)) = magnitudeOf w := by
    refine magnitudeOf_wordOf ?_
    have hfraction : w % 2 ^ 52 < 2 ^ 52 := Nat.mod_lt _ (by decide)
    rw [magnitudeOf]
    split_ifs
    · rw [← Nat.mul_one (w % 2 ^ 52), ← Nat.pow_zero 2]
      exact two_pow_cutOf_dvd (by omega) 0
    · exact two_pow_cutOf_dvd (by omega) _
  rcases Nat.lt_trichotomy (wordOf (magnitudeOf w)) w with hlt | heq | hgt
  · exact absurd hexact (magnitudeOf_strictMono hlt).ne
  · exact heq
  · exact absurd hexact (magnitudeOf_strictMono hgt).ne'

/-! ### The double nearest to an integer -/

/-- The word and the sign do not overlap. -/
theorem toNat_bits_ofRatio (negative : Bool) (num den : Nat) :
    (ofRatio negative num den).bits.toNat = nearestWord num den + signWord negative := by
  have hword : nearestWord num den ≤ infinityWord := Nat.min_le_right _ _
  have hsign : signWord negative ≤ 2 ^ 63 := by cases negative <;> decide
  have hinfinity : infinityWord < 2 ^ 63 := by decide
  rw [ofRatio, UInt64.toNat_ofNat']
  exact Nat.mod_eq_of_lt (by omega)

theorem negative_ofRatio (negative : Bool) (num den : Nat) :
    (ofRatio negative num den).negative = negative := by
  have hword : nearestWord num den ≤ 2047 * 2 ^ 52 := Nat.min_le_right _ _
  rw [Double.negative, toNat_bits_ofRatio, Nat.shiftRight_eq_div_pow]
  cases negative with
  | true =>
    have hdiv : (nearestWord num den + signWord true) / 2 ^ 63 = 1 := by
      simp only [signWord, if_true, Nat.shiftLeft_eq]
      omega
    rw [hdiv]
    rfl
  | false =>
    have hdiv : (nearestWord num den + signWord false) / 2 ^ 63 = 0 := by
      simp only [signWord, Bool.false_eq_true, if_false]
      omega
    rw [hdiv]
    rfl

theorem exponent_ofRatio (negative : Bool) (num den : Nat) :
    (ofRatio negative num den).exponent = nearestWord num den / 2 ^ 52 := by
  have hword : nearestWord num den ≤ 2047 * 2 ^ 52 := Nat.min_le_right _ _
  rw [exponent, toNat_bits_ofRatio, Nat.shiftRight_eq_div_pow]
  cases negative <;> simp [signWord] <;> omega

theorem fraction_ofRatio (negative : Bool) (num den : Nat) :
    (ofRatio negative num den).fraction = nearestWord num den % 2 ^ 52 := by
  rw [fraction, toNat_bits_ofRatio]
  cases negative with
  | true =>
    simp only [signWord, if_true, Nat.shiftLeft_eq]
    omega
  | false => rfl

theorem magnitude_ofRatio (negative : Bool) (num den : Nat) :
    (ofRatio negative num den).magnitude = magnitudeOf (nearestWord num den) := by
  rw [magnitude, exponent_ofRatio, fraction_ofRatio, magnitudeOf, Nat.shiftLeft_eq]
  rfl

theorem isNaN_ofRatio (negative : Bool) (num den : Nat) :
    (ofRatio negative num den).isNaN = false := by
  have hword : nearestWord num den ≤ 2047 * 2 ^ 52 := Nat.min_le_right _ _
  rw [isNaN, exponent_ofRatio, fraction_ofRatio, Bool.and_eq_false_iff]
  by_cases he : nearestWord num den / 2 ^ 52 = 2047
  · have hfraction : nearestWord num den % 2 ^ 52 = 0 := by omega
    exact .inr (by rw [hfraction]; rfl)
  · exact .inl (beq_false_of_ne he)

theorem isNaN_ofInt (n : Int) : (ofInt n).isNaN = false := isNaN_ofRatio ..

/-- How many units make one. -/
def unitsOfOne : Nat := 1 <<< 1074

theorem unitsOfOne_eq {k : Nat} (h : k = 1074) : unitsOfOne = 2 ^ k := by
  rw [unitsOfOne, ← h, Nat.one_shiftLeft]

theorem unitsOfOne_pos : 0 < unitsOfOne := by
  obtain ⟨k, hk⟩ : ∃ k, k = 1074 := ⟨_, rfl⟩
  rw [unitsOfOne_eq hk]
  exact Nat.two_pow_pos k

/-- One is a power of two, and `2 ^ 53` is far from infinity. -/
theorem exists_unitsOfOne_eq :
    ∃ k, unitsOfOne = 2 ^ k ∧ 2 ^ 53 * 2 ^ k ≤ magnitudeOf infinityWord := by
  have hshift (k : Nat) : 1 <<< k = 2 ^ k := Nat.one_shiftLeft k
  refine ⟨1074, by rw [unitsOfOne, hshift], ?_⟩
  exact two_pow_mul_le_magnitudeOf (by decide)

theorem nearestWord_eq (num den : Nat) :
    nearestWord num den = min (quotientWord (num * unitsOfOne) den) infinityWord := by
  have hunits : num <<< 1074 = num * unitsOfOne := by
    rw [unitsOfOne, Nat.shiftLeft_eq, Nat.one_shiftLeft]
  simp only [nearestWord, quotientWord, cutOf, Nat.shiftLeft_eq _ 52, Nat.shiftLeft_eq den, hunits]

theorem nearestWord_one (n : Nat) :
    nearestWord n 1 = min (wordOf (n * unitsOfOne)) infinityWord := by
  rw [nearestWord_eq, quotientWord_one]

/-- The size of the double nearest to a natural. -/
def magnitudeOfNat (n : Nat) : Nat := magnitudeOf (nearestWord n 1)

theorem units_ofInt (n : Int) :
    (ofInt n).units = if n < 0 then -(magnitudeOfNat n.natAbs : Int) else magnitudeOfNat n.natAbs := by
  rw [units, ofInt, negative_ofRatio, magnitude_ofRatio, magnitudeOfNat]
  simp only [decide_eq_true_eq]

theorem magnitudeOfNat_mono {m n : Nat} (h : m ≤ n) : magnitudeOfNat m ≤ magnitudeOfNat n := by
  rw [magnitudeOfNat, magnitudeOfNat, nearestWord_one, nearestWord_one]
  have hword := wordOf_mono (Nat.mul_le_mul_right unitsOfOne h)
  exact magnitudeOf_mono (by omega)

theorem magnitudeOfNat_of_le {n : Nat} (h : n ≤ 2 ^ 53) : magnitudeOfNat n = n * unitsOfOne := by
  obtain ⟨k, hk, hinfinity⟩ := exists_unitsOfOne_eq
  have hexact : magnitudeOf (wordOf (n * 2 ^ k)) = n * 2 ^ k :=
    magnitudeOf_wordOf (two_pow_cutOf_dvd h k)
  rw [magnitudeOfNat, nearestWord_one, hk, Nat.min_eq_left, hexact]
  -- The word is below that of infinity, as their magnitudes show.
  by_contra hlt
  have hmagnitude := magnitudeOf_strictMono (Nat.lt_of_not_le hlt)
  have hle : n * 2 ^ k ≤ 2 ^ 53 * 2 ^ k := Nat.mul_le_mul_right _ h
  omega

/-- A larger integer is not rounded to a smaller double. -/
theorem units_ofInt_mono {m n : Int} (h : m ≤ n) : (ofInt m).units ≤ (ofInt n).units := by
  rw [units_ofInt, units_ofInt]
  split_ifs with hm hn hn
  · have := magnitudeOfNat_mono (m := n.natAbs) (n := m.natAbs) (by omega)
    omega
  · omega
  · omega
  · have := magnitudeOfNat_mono (m := m.natAbs) (n := n.natAbs) (by omega)
    omega

/-- An integer in units has the sign of the integer. -/
theorem mul_unitsOfOne (n : Int) : n * unitsOfOne =
    if n < 0 then -((n.natAbs * unitsOfOne : Nat) : Int) else (n.natAbs * unitsOfOne : Nat) := by
  rw [Int.natCast_mul]
  split_ifs with hn
  · rw [← Int.neg_mul, Int.ofNat_natAbs_of_nonpos hn.le, Int.neg_neg]
  · rw [Int.natAbs_of_nonneg (by omega)]

/-- Rounding is exact up to `2 ^ 53`. -/
theorem units_ofInt_of_natAbs_le {n : Int} (h : n.natAbs ≤ 2 ^ 53) :
    (ofInt n).units = n * unitsOfOne := by
  rw [units_ofInt, magnitudeOfNat_of_le h, mul_unitsOfOne]

/-- Below `2 ^ 53`, no other integer is rounded to the same double. -/
theorem eq_of_units_ofInt_eq {m n : Int} (hn : n.natAbs < 2 ^ 53)
    (h : (ofInt m).units = (ofInt n).units) : m = n := by
  have hpos : (0 : Int) < unitsOfOne := by exact_mod_cast unitsOfOne_pos
  have hexact (l : Int) (hl : l.natAbs ≤ 2 ^ 53) := units_ofInt_of_natAbs_le hl
  rw [hexact n hn.le] at h
  -- Where rounding is exact, only `n` itself is rounded to the same double.
  have hnear (l : Int) (hl : l.natAbs ≤ 2 ^ 53) (hle : (ofInt l).units = n * unitsOfOne) : l = n := by
    rw [hexact l hl] at hle
    exact Int.eq_of_mul_eq_mul_right hpos.ne' hle
  by_cases hm : m.natAbs ≤ 2 ^ 53
  · exact hnear m hm h
  · -- Beyond `2 ^ 53`, that bound stands between `m` and `n` and is rounded like them.
    exfalso
    rcases Int.lt_or_le m 0 with hneg | hnonneg
    · have hlow := units_ofInt_mono (show m ≤ -2 ^ 53 by omega)
      have hhigh := units_ofInt_mono (show -2 ^ 53 ≤ n by omega)
      rw [hexact n hn.le] at hhigh
      have := hnear (-2 ^ 53) (by decide) (by omega)
      omega
    · have hlow := units_ofInt_mono (show n ≤ 2 ^ 53 by omega)
      have hhigh := units_ofInt_mono (show 2 ^ 53 ≤ m by omega)
      rw [hexact n hn.le] at hlow
      have := hnear (2 ^ 53) (by decide) (by omega)
      omega

/-! ### Doubles between integers -/

/-- A natural is not rounded past a word, neither from above -/
theorem magnitudeOf_le_magnitudeOfNat {w n : Nat} (hw : w ≤ infinityWord)
    (h : magnitudeOf w ≤ n * unitsOfOne) : magnitudeOf w ≤ magnitudeOfNat n := by
  have hword : w ≤ wordOf (n * unitsOfOne) := by
    rw [← wordOf_magnitudeOf w]
    exact wordOf_mono h
  rw [magnitudeOfNat, nearestWord_one]
  exact magnitudeOf_mono (Nat.le_min.mpr ⟨hword, hw⟩)

/-- nor from below. -/
theorem magnitudeOfNat_le_magnitudeOf {w n : Nat} (h : n * unitsOfOne ≤ magnitudeOf w) :
    magnitudeOfNat n ≤ magnitudeOf w := by
  have hword : wordOf (n * unitsOfOne) ≤ w := by
    rw [← wordOf_magnitudeOf w]
    exact wordOf_mono h
  rw [magnitudeOfNat, nearestWord_one]
  exact magnitudeOf_mono ((Nat.min_le_left _ _).trans hword)

/-- The word without its sign bit. -/
def unsignedWord (x : Double) : Nat := x.bits.toNat % 2 ^ 63

variable {x : Double}

theorem exponent_eq (x : Double) : x.exponent = x.unsignedWord / 2 ^ 52 := by
  rw [exponent, unsignedWord, Nat.shiftRight_eq_div_pow, Nat.one_shiftLeft]
  omega

theorem fraction_eq (x : Double) : x.fraction = x.unsignedWord % 2 ^ 52 := by
  rw [fraction, unsignedWord, Nat.one_shiftLeft]
  omega

theorem magnitude_eq (x : Double) : x.magnitude = magnitudeOf x.unsignedWord := by
  rw [magnitude, magnitudeOf, exponent_eq, fraction_eq, Nat.shiftLeft_eq, Nat.one_shiftLeft]

/-- The words beyond that of infinity stand for no number. -/
theorem unsignedWord_le (h : x.isNaN = false) : x.unsignedWord ≤ infinityWord := by
  have hword : x.unsignedWord < 2 ^ 63 := Nat.mod_lt _ (by decide)
  have hinfinity : infinityWord = 2047 * 2 ^ 52 := Nat.shiftLeft_eq _ _
  rw [isNaN, exponent_eq, fraction_eq] at h
  simp at h
  omega

/-- An integer is not rounded past a double, neither upwards nor downwards. -/
theorem not_rounded_past (hx : x.isNaN = false) (n : Int) :
    (x.units ≤ n * unitsOfOne → x.units ≤ (ofInt n).units) ∧
      (n * unitsOfOne ≤ x.units → (ofInt n).units ≤ x.units) := by
  have hup : x.magnitude ≤ n.natAbs * unitsOfOne → x.magnitude ≤ magnitudeOfNat n.natAbs := by
    rw [magnitude_eq]
    exact magnitudeOf_le_magnitudeOfNat (unsignedWord_le hx)
  have hdown : n.natAbs * unitsOfOne ≤ x.magnitude → magnitudeOfNat n.natAbs ≤ x.magnitude := by
    rw [magnitude_eq]
    exact magnitudeOfNat_le_magnitudeOf
  rw [mul_unitsOfOne, units, units_ofInt]
  split_ifs <;> omega

/-! ### Results of finite size -/

theorem isFinite_ofRatio_iff {negative : Bool} {num den : Nat} :
    (ofRatio negative num den).isFinite = true ↔
      quotientWord (num * unitsOfOne) den < infinityWord := by
  have hinfinity : infinityWord = 2047 * 2 ^ 52 := Nat.shiftLeft_eq _ _
  rw [isFinite, exponent_ofRatio, nearestWord_eq, bne_iff_ne]
  omega

/-- The word of a finite double comes before that of infinity. -/
theorem unsignedWord_lt (h : x.isFinite = true) : x.unsignedWord < infinityWord := by
  have hword : x.unsignedWord < 2 ^ 63 := Nat.mod_lt _ (by decide)
  have hinfinity : infinityWord = 2047 * 2 ^ 52 := Nat.shiftLeft_eq _ _
  rw [isFinite, exponent_eq, bne_iff_ne] at h
  omega

/-- Division by what is no smaller than one keeps a double finite. -/
theorem isFinite_div {y : Double} (hx : x.isFinite = true) (hy : unitsOfOne ≤ y.magnitude) :
    (x.div y).isFinite = true := by
  rw [div, isFinite_ofRatio_iff]
  calc quotientWord (x.magnitude * unitsOfOne) y.magnitude ≤ quotientWord x.magnitude 1 := by
        refine quotientWord_le_quotientWord (unitsOfOne_pos.trans_le hy) Nat.one_pos ?_
        rw [Nat.mul_one]
        exact Nat.mul_le_mul_left _ hy
    _ = x.unsignedWord := by rw [quotientWord_one, magnitude_eq, wordOf_magnitudeOf]
    _ < infinityWord := unsignedWord_lt hx

/-- Every 64-bit integer is rounded to a finite double. -/
theorem isFinite_ofInt {n : Int} (h : n.natAbs ≤ 2 ^ 64) : (ofInt n).isFinite = true := by
  obtain ⟨k, hk⟩ : ∃ k, k = 1074 := ⟨_, rfl⟩
  -- One word before that of infinity, the magnitude is still greater by far.
  have hlast : (infinityWord - 1) / 2 ^ 52 = 2046 := by decide
  have hunits : n.natAbs * unitsOfOne ≤ magnitudeOf (infinityWord - 1) := by
    calc n.natAbs * unitsOfOne ≤ 2 ^ 64 * 2 ^ k := by
          rw [unitsOfOne_eq hk]
          exact Nat.mul_le_mul_right _ h
      _ = 2 ^ 53 * 2 ^ (k + 11) := by
          rw [← Nat.pow_add, ← Nat.pow_add]
          congr 1
          omega
      _ ≤ magnitudeOf (infinityWord - 1) := two_pow_mul_le_magnitudeOf (by omega)
  rw [ofInt, isFinite_ofRatio_iff, quotientWord_one]
  calc wordOf (n.natAbs * unitsOfOne) ≤ wordOf (magnitudeOf (infinityWord - 1)) := wordOf_mono hunits
    _ = infinityWord - 1 := wordOf_magnitudeOf _
    _ < infinityWord := by decide

theorem isFinite_neg (x : Double) : x.neg.isFinite = x.isFinite := by
  have hword : x.neg.unsignedWord = x.unsignedWord := by
    rw [unsignedWord, neg, UInt64.toNat_xor, Nat.xor_mod_two_pow]
    exact Nat.xor_zero _
  rw [isFinite, isFinite, exponent_eq, exponent_eq, hword]

end Double

end RecordSieve
