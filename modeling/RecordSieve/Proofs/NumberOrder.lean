import RecordSieve.Proofs.ExactValue

/-!
# The order of numbers

Numbers are compared exactly as long as both are integers or both are doubles. In a mixed pair the
integer is rounded first, and rounding is where an order can go wrong: it may make numbers equal
that are not. It never turns them round, since it keeps the order of all numbers, doubles included
(`Number.units_mono`): an integer on one side of a double is not rounded to the other side.

**`order_laws`** says what follows. Comparison is antisymmetric, and what is less is transitively
so. A number that is called less than another is worth less, and equal values are called equal.
Where the integer of a mixed pair is at most `2 ^ 53`, nothing is rounded, and the comparison is
that of the values.
-/

namespace RecordSieve

open ExactValue

namespace Number

variable {a b c : Number} {m n : Int}

/-! ### Rounding keeps the order -/

/-- A number that is worth no more is not rounded to more. -/
theorem units_mono (ha : a.isNaN = false) (hb : b.isNaN = false)
    (h : a.exactUnits ≤ b.exactUnits) : a.units ≤ b.units := by
  have hdouble {c : Number} (hc : c.isNaN = false) : c.toDouble.isNaN = false :=
    (isNaN_toDouble c).trans hc
  cases ham : a.integer? with
  | some m =>
    rw [exactUnits_of_integer? ham] at h
    rw [units_of_integer? ham]
    cases hbn : b.integer? with
    | some n =>
      rw [exactUnits_of_integer? hbn] at h
      rw [units_of_integer? hbn]
      refine Double.units_ofInt_mono (Int.le_of_mul_le_mul_right h ?_)
      exact_mod_cast Double.unitsOfOne_pos
    | none =>
      rw [exactUnits_of_integer?_eq_none hbn] at h
      exact (Double.not_rounded_past (hdouble hb) m).2 h
  | none =>
    rw [exactUnits_of_integer?_eq_none ham] at h
    cases hbn : b.integer? with
    | some n =>
      rw [exactUnits_of_integer? hbn] at h
      rw [units_of_integer? hbn]
      exact (Double.not_rounded_past (hdouble ha) n).1 h
    | none => rwa [exactUnits_of_integer?_eq_none hbn] at h

/-- Up to `2 ^ 53` nothing is rounded. -/
theorem units_eq_exactUnits (h : ∀ n, a.integer? = some n → n.natAbs ≤ 2 ^ 53) :
    a.units = a.exactUnits := by
  cases ha : a.integer? with
  | some m =>
    rw [units_of_integer? ha, exactUnits_of_integer? ha, Double.units_ofInt_of_natAbs_le (h m ha)]
  | none => exact (exactUnits_of_integer?_eq_none ha).symm

/-! ### What a comparison comes down to -/

theorem compare_eq_none_iff : a.compare b = none ↔ a.isNaN = true ∨ b.isNaN = true := by
  rcases integers_or_double a b with ⟨m, n, ha, hb⟩ | hdouble
  · simp [compare_integers ha hb, isNaN_of_integer? ha, isNaN_of_integer? hb]
  · rw [compare_units hdouble]
    cases a.isNaN <;> cases b.isNaN <;> simp

theorem compare_swap (a b : Number) : b.compare a = (a.compare b).map Ordering.swap := by
  have hswap (u v : Int) : Ord.compare v u = (Ord.compare u v).swap := Std.OrientedOrd.eq_swap
  rcases integers_or_double a b with ⟨m, n, ha, hb⟩ | hdouble
  · rw [compare_integers ha hb, compare_integers hb ha, hswap m]
    rfl
  · rw [compare_units hdouble, compare_units hdouble.symm, Bool.or_comm, hswap a.units]
    split_ifs <;> rfl

/-- What is less is rounded to less, or both are integers that are rounded to the same double. -/
theorem compare_lt_iff :
    a.compare b = some .lt ↔ (a.isNaN = false ∧ b.isNaN = false) ∧
      (a.units < b.units ∨ a.units = b.units ∧
        ∃ m n, a.integer? = some m ∧ b.integer? = some n ∧ m < n) := by
  rcases integers_or_double a b with ⟨m, n, ha, hb⟩ | hdouble
  · rw [compare_integers ha hb, Option.some.injEq, Int.compare_eq_lt, units_of_integer? ha,
      units_of_integer? hb, isNaN_of_integer? ha, isNaN_of_integer? hb]
    simp only [ha, hb, Option.some.injEq, and_self, true_and]
    constructor
    · intro hlt
      have hle := Double.units_ofInt_mono hlt.le
      exact hle.lt_or_eq.imp_right fun heq => ⟨heq, m, n, rfl, rfl, hlt⟩
    · rintro (hlt | ⟨-, _, _, rfl, rfl, hlt⟩)
      · exact Int.not_le.mp fun hle => absurd (Double.units_ofInt_mono hle) (Int.not_le.mpr hlt)
      · exact hlt
  · have hnone : ¬∃ m n, a.integer? = some m ∧ b.integer? = some n ∧ m < n := by
      rintro ⟨m, n, ha, hb, -⟩
      rw [ha, hb] at hdouble
      exact hdouble.elim nofun nofun
    rw [compare_units hdouble]
    simp only [hnone, and_false, or_false]
    cases a.isNaN <;> cases b.isNaN <;> simp [Int.compare_eq_lt]

/-! ### An order -/

theorem units_le_of_compare_lt (h : a.compare b = some .lt) : a.units ≤ b.units := by
  obtain ⟨-, hlt | ⟨heq, -⟩⟩ := compare_lt_iff.mp h
  · exact hlt.le
  · exact heq.le

/-- Two numbers of which one is less and that are rounded to the same double are integers. -/
theorem integers_of_compare_lt (h : a.compare b = some .lt) (hunits : a.units = b.units) :
    ∃ m n, a.integer? = some m ∧ b.integer? = some n ∧ m < n := by
  obtain ⟨-, hlt | ⟨-, hintegers⟩⟩ := compare_lt_iff.mp h
  · exact absurd hunits hlt.ne
  · exact hintegers

theorem compare_lt_trans (hab : a.compare b = some .lt) (hbc : b.compare c = some .lt) :
    a.compare c = some .lt := by
  have hle := units_le_of_compare_lt hab
  have hle' := units_le_of_compare_lt hbc
  refine compare_lt_iff.mpr ⟨⟨(compare_lt_iff.mp hab).1.1, (compare_lt_iff.mp hbc).1.2⟩, ?_⟩
  rcases Int.lt_or_eq_of_le (hle.trans hle') with hlt | heq
  · exact .inl hlt
  · -- All three are rounded to the same double, so they are integers in order.
    obtain ⟨m, n, ha, hb, hmn⟩ := integers_of_compare_lt hab (by omega)
    obtain ⟨n', p, hb', hc, hnp⟩ := integers_of_compare_lt hbc (by omega)
    obtain rfl : n = n' := Option.some.inj (hb.symm.trans hb')
    exact .inr ⟨heq, m, p, ha, hc, hmn.trans hnp⟩

/-- What is less than one of two equal numbers is not greater than the other. -/
theorem compare_ne_gt_of_lt_of_eq (hab : a.compare b = some .lt) (hbc : b.compare c = some .eq) :
    a.compare c ≠ some .gt := by
  intro hac
  have hca : c.compare a = some .lt := by
    rw [compare_swap a c, hac]
    rfl
  obtain ⟨-, hunits, hint⟩ := compare_eq_iff.mp hbc
  have hle := units_le_of_compare_lt hab
  have hle' := units_le_of_compare_lt hca
  -- All three are rounded to the same double, so they are integers, and equal ones are the same.
  obtain ⟨m, n, ha, hb, hmn⟩ := integers_of_compare_lt hab (by omega)
  obtain ⟨p, m', hc, ha', hpm⟩ := integers_of_compare_lt hca (by omega)
  obtain rfl : m = m' := Option.some.inj (ha.symm.trans ha')
  obtain rfl := hint n p hb hc
  exact Int.lt_asymm hmn hpm

/-! ### Comparisons and values -/

theorem exactUnits_lt_of_compare_lt (h : a.compare b = some .lt) : a.exactUnits < b.exactUnits := by
  obtain ⟨⟨ha, hb⟩, hlt | ⟨-, m, n, ham, hbn, hmn⟩⟩ := compare_lt_iff.mp h
  · exact Int.not_le.mp fun hle => absurd (units_mono hb ha hle) (Int.not_le.mpr hlt)
  · rw [exactUnits_of_integer? ham, exactUnits_of_integer? hbn]
    exact Int.mul_lt_mul_of_pos_right hmn (by exact_mod_cast Double.unitsOfOne_pos)

/-- What is called less is worth less. -/
theorem value_lt_of_compare_lt (h : a.compare b = some .lt) :
    ∃ u v, a.value? = some u ∧ b.value? = some v ∧ u < v := by
  obtain ⟨⟨ha, hb⟩, -⟩ := compare_lt_iff.mp h
  have hu := value?_eq_ofUnits ha
  have hv := value?_eq_ofUnits hb
  exact ⟨_, _, hu, hv, value_lt_of_exactUnits_lt hu hv (exactUnits_lt_of_compare_lt h)⟩

theorem value_lt_of_compare_gt (h : a.compare b = some .gt) :
    ∃ u v, a.value? = some u ∧ b.value? = some v ∧ v < u := by
  have hba : b.compare a = some .lt := by
    rw [compare_swap a b, h]
    rfl
  obtain ⟨v, u, hv, hu, hlt⟩ := value_lt_of_compare_lt hba
  exact ⟨u, v, hu, hv, hlt⟩

/-- What is worth the same is called equal. -/
theorem compare_eq_of_value_eq {u : ExactValue} (ha : a.value? = some u) (hb : b.value? = some u) :
    a.compare b = some .eq := by
  have hunits : a.exactUnits = b.exactUnits := by
    rw [← cmp_eq_eq_iff, ← cmp_values ha hb, cmp_self_eq_eq]
  have hnan := isNaN_of_value? ha
  have hnan' := isNaN_of_value? hb
  refine compare_eq_iff.mpr ⟨⟨hnan, hnan'⟩, ?_, fun m n ham hbn => ?_⟩
  · exact Int.le_antisymm (units_mono hnan hnan' hunits.le) (units_mono hnan' hnan hunits.ge)
  · rw [exactUnits_of_integer? ham, exactUnits_of_integer? hbn] at hunits
    exact Int.eq_of_mul_eq_mul_right (by exact_mod_cast Double.unitsOfOne_pos.ne') hunits

/-- The two numbers are compared without rounding: in a mixed pair, the integer is at most
`2 ^ 53`. -/
def ComparedAsTheyAre (a b : Number) : Prop :=
  (∀ n, a.integer? = some n → b.integer? = none → n.natAbs ≤ 2 ^ 53) ∧
    ∀ n, b.integer? = some n → a.integer? = none → n.natAbs ≤ 2 ^ 53

theorem ComparedAsTheyAre.compare_eq (h : a.ComparedAsTheyAre b) {u v : ExactValue}
    (hu : a.value? = some u) (hv : b.value? = some v) : a.compare b = some (cmp u v) := by
  rw [cmp_values hu hv]
  rcases integers_or_double a b with ⟨m, n, ham, hbn⟩ | hdouble
  · rw [compare_integers ham hbn, exactUnits_of_integer? ham, exactUnits_of_integer? hbn,
      cmp_mul_pos_right (by exact_mod_cast Double.unitsOfOne_pos), cmp_eq_compare]
  · have hunits : a.units = a.exactUnits ∧ b.units = b.exactUnits := by
      refine ⟨units_eq_exactUnits fun n han => ?_, units_eq_exactUnits fun n hbn => ?_⟩
      · exact h.1 n han (hdouble.resolve_left (han ▸ nofun))
      · exact h.2 n hbn (hdouble.resolve_right (hbn ▸ nofun))
    rw [compare_units hdouble, isNaN_of_value? hu, isNaN_of_value? hv, hunits.1, hunits.2,
      cmp_eq_compare]
    rfl

end Number

/-- The operators that ask for an order accept a number that stands to the literal as they allow. -/
theorem Operator.yes_iff_allows {op : Operator} (hop : op ∈ [greater, atLeast, less, atMost])
    (a b : Number) :
    (op.apply (.literal (.number b)) (some (.scalar (.number a)))).verdict = .yes ↔
      ∃ o, a.compare b = some o ∧ op.allows o = true := by
  have hverdict : (op.apply (.literal (.number b)) (some (.scalar (.number a)))).verdict =
      .ofBool ((a.compare b).any op.allows) :=
    verdict_of_mem_ordering hop (.number b) (some (.scalar (.number a)))
  rw [hverdict, ← Option.any_eq_true]
  cases (a.compare b).any op.allows <;> simp [Verdict.ofBool]

/-- **Numbers are in a strict order that does not contradict their values.** -/
theorem order_laws (a b c : Number) :
    -- Only NaN is out of order, and only NaN is worth nothing.
    (a.compare b = none ↔ a.isNaN = true ∨ b.isNaN = true) ∧
    (a.value? = none ↔ a.isNaN = true) ∧
    -- The order can be read from both sides, and it is transitive, as far as it goes also through
    -- what is called equal.
    b.compare a = (a.compare b).map Ordering.swap ∧
    (a.compare b = some .lt → b.compare c = some .lt → a.compare c = some .lt) ∧
    (a.compare b = some .lt → b.compare c = some .eq → a.compare c ≠ some .gt) ∧
    -- What is less is worth less, and what is worth the same is equal.
    (a.compare b = some .lt → ∃ u v, a.value? = some u ∧ b.value? = some v ∧ u < v) ∧
    (∀ u, a.value? = some u → b.value? = some u → a.compare b = some .eq) ∧
    -- Where no integer beyond `2 ^ 53` meets a double, the values are what is compared.
    (a.ComparedAsTheyAre b → ∀ u v, a.value? = some u → b.value? = some v →
      a.compare b = some (cmp u v)) ∧
    -- So neither `$gt` nor `$lt` accepts a number on the wrong side of the bound.
    ((Operator.greater.apply (.literal (.number b)) (some (.scalar (.number a)))).verdict = .yes →
      ∃ u v, a.value? = some u ∧ b.value? = some v ∧ v < u) ∧
    ((Operator.less.apply (.literal (.number b)) (some (.scalar (.number a)))).verdict = .yes →
      ∃ u v, a.value? = some u ∧ b.value? = some v ∧ u < v) := by
  refine ⟨Number.compare_eq_none_iff, Number.value?_eq_none_iff, Number.compare_swap a b,
    Number.compare_lt_trans, Number.compare_ne_gt_of_lt_of_eq, Number.value_lt_of_compare_lt,
    fun u => Number.compare_eq_of_value_eq, fun h u v => h.compare_eq, fun h => ?_, fun h => ?_⟩
  · obtain ⟨o, ho, hallows⟩ := (Operator.yes_iff_allows (by simp) a b).mp h
    obtain rfl : o = .gt := eq_of_beq hallows
    exact Number.value_lt_of_compare_gt ho
  · obtain ⟨o, ho, hallows⟩ := (Operator.yes_iff_allows (by simp) a b).mp h
    obtain rfl : o = .lt := eq_of_beq hallows
    exact Number.value_lt_of_compare_lt ho

/-- The greatest word is rounded to `2 ^ 64`, which makes it equal to it but not greater. -/
example :
    (Number.unsigned 0xFFFFFFFFFFFFFFFF).compare (.double ⟨0x43F0000000000000⟩) = some .eq := by
  decide +kernel

end RecordSieve
