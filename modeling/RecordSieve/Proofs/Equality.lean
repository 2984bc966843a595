import RecordSieve.Proofs.Rounding
import RecordSieve.Proofs.SideBySide

/-!
# Equality of scalars

Equality of scalars should not depend on how a number is held, and equal scalars should be of the
same use in criteria. As far as 53 binary digits reach, that is so. Beyond, it is not, since an
integer is rounded before it is compared with a double: one double is equal to several integers,
which are not equal to each other.

`Number.compare_eq_iff` says what equality of numbers comes down to: the doubles that the numbers
are rounded to are equal, and if both are integers, then so are the integers. The first of the two
conditions is an equivalence, the second is not, for nothing is asked of a double.

**`equality_laws`** says how far equality is an equivalence, and which equal scalars may stand for
each other: those of which none is an integer that is *blurred*, so that another integer is rounded
to the same double. `equality_is_not_transitive` gives three numbers that show that it is no more.
-/

namespace RecordSieve

namespace Number

/-- Does the number stand for no number? -/
def isNaN : Number → Bool
  | double x => x.isNaN
  | _ => false

/-- The number as it is compared with a double, in units. -/
def units (a : Number) : Int := a.toDouble.units

variable {a b : Number} {m n : Int}

theorem toDouble_of_integer? (h : a.integer? = some m) : a.toDouble = .ofInt m := by
  cases a <;> cases h <;> rfl

theorem isNaN_toDouble (a : Number) : a.toDouble.isNaN = a.isNaN := by
  cases a with
  | double x => rfl
  | signed n | unsigned n => exact Double.isNaN_ofInt _

theorem isNaN_of_integer? (h : a.integer? = some m) : a.isNaN = false := by
  rw [← isNaN_toDouble, toDouble_of_integer? h, Double.isNaN_ofInt]

theorem units_of_integer? (h : a.integer? = some m) : a.units = (Double.ofInt m).units := by
  rw [units, toDouble_of_integer? h]

/-- Two numbers are both integers, or a double is among them. -/
theorem integers_or_double (a b : Number) :
    (∃ m n, a.integer? = some m ∧ b.integer? = some n) ∨ a.integer? = none ∨ b.integer? = none := by
  cases a.integer? <;> cases b.integer? <;> simp

/-- Two integers are compared as such. -/
theorem compare_integers (ha : a.integer? = some m) (hb : b.integer? = some n) :
    a.compare b = some (Ord.compare m n) := by
  simp only [compare, ha, hb]

/-- Where a double takes part, doubles are compared. -/
theorem compare_units (h : a.integer? = none ∨ b.integer? = none) :
    a.compare b = if a.isNaN || b.isNaN then none else some (Ord.compare a.units b.units) := by
  have hdouble : a.compare b = a.toDouble.compare b.toDouble := by
    rcases h with h | h
    · simp only [compare, h]
    · cases ha : a.integer? <;> simp only [compare, ha, h]
  rw [hdouble, Double.compare, isNaN_toDouble, isNaN_toDouble]
  rfl

/-- What equality of numbers comes down to. -/
theorem compare_eq_iff :
    a.compare b = some .eq ↔ (a.isNaN = false ∧ b.isNaN = false) ∧ a.units = b.units ∧
      ∀ m n, a.integer? = some m → b.integer? = some n → m = n := by
  rcases integers_or_double a b with ⟨m, n, ha, hb⟩ | hdouble
  · rw [compare_integers ha hb, isNaN_of_integer? ha, isNaN_of_integer? hb, units_of_integer? ha,
      units_of_integer? hb]
    simp only [ha, hb, Option.some.injEq, Int.compare_eq_eq, and_self, true_and]
    constructor
    · rintro rfl
      exact ⟨rfl, fun k l hk hl => hk ▸ hl⟩
    · exact fun h => h.2 m n rfl rfl
  · have hnone : ∀ m n, a.integer? = some m → b.integer? = some n → m = n := by
      intro m n ha hb
      rw [ha, hb] at hdouble
      exact hdouble.elim nofun nofun
    rw [compare_units hdouble]
    simp only [iff_true_intro hnone, and_true]
    cases a.isNaN <;> cases b.isNaN <;> simp

theorem compare_self (a : Number) : a.compare a = some .eq ↔ a.isNaN = false := by
  rw [compare_eq_iff]
  constructor
  · exact fun h => h.1.1
  · refine fun h => ⟨⟨h, h⟩, rfl, fun m n hm hn => ?_⟩
    rw [hm] at hn
    exact Option.some.inj hn

theorem compare_eq_symm : a.compare b = some .eq ↔ b.compare a = some .eq := by
  have hsymm {a b : Number} (h : a.compare b = some .eq) : b.compare a = some .eq := by
    rw [compare_eq_iff] at h ⊢
    obtain ⟨⟨ha, hb⟩, hunits, hint⟩ := h
    exact ⟨⟨hb, ha⟩, hunits.symm, fun m n hm hn => (hint n m hn hm).symm⟩
  exact ⟨hsymm, hsymm⟩

/-- Equality is transitive where it is not between two different integers in the end. -/
theorem compare_eq_trans_iff {c : Number} (hab : a.compare b = some .eq)
    (hbc : b.compare c = some .eq) :
    a.compare c = some .eq ↔ ∀ m n, a.integer? = some m → c.integer? = some n → m = n := by
  rw [compare_eq_iff] at hab hbc ⊢
  obtain ⟨⟨ha, -⟩, hab, -⟩ := hab
  obtain ⟨⟨-, hc⟩, hbc, -⟩ := hbc
  constructor
  · exact fun h => h.2.2
  · exact fun h => ⟨⟨ha, hc⟩, hab.trans hbc, h⟩

/-! ### Which numbers may stand for each other -/

/-- The number is an integer, and some number is another integer that is rounded to the same
double. -/
def Blurred (a : Number) : Prop :=
  ∃ (m n : Int) (x : Number),
    a.integer? = some m ∧ x.integer? = some n ∧ n ≠ m ∧ x.units = a.units

/-- Below `2 ^ 53` no integer is blurred. -/
theorem not_blurred_of_natAbs_lt (h : ∀ m, a.integer? = some m → m.natAbs < 2 ^ 53) :
    ¬a.Blurred := by
  rintro ⟨m, n, x, ha, hx, hne, hunits⟩
  rw [units_of_integer? ha, units_of_integer? hx] at hunits
  exact hne (Double.eq_of_units_ofInt_eq (h m ha) hunits)

/-- Rounding keeps the order of an integer and another one that is not blurred. -/
theorem compare_units_of_integers {x : Number} (ha : a.integer? = some m)
    (hx : x.integer? = some n) (h : ¬a.Blurred) :
    Ord.compare x.units a.units = Ord.compare n m := by
  have hunits : n ≠ m → x.units ≠ a.units := fun hne heq => h ⟨m, n, x, ha, hx, hne, heq⟩
  rcases Int.lt_trichotomy n m with hlt | rfl | hgt
  · have hle : x.units ≤ a.units := by
      rw [units_of_integer? ha, units_of_integer? hx]
      exact Double.units_ofInt_mono hlt.le
    have hne := hunits hlt.ne
    rw [Int.compare_eq_lt.mpr hlt, Int.compare_eq_lt]
    omega
  · rw [units_of_integer? ha, units_of_integer? hx, Int.compare_eq_eq.mpr rfl,
      Int.compare_eq_eq.mpr rfl]
  · have hle : a.units ≤ x.units := by
      rw [units_of_integer? ha, units_of_integer? hx]
      exact Double.units_ofInt_mono hgt.le
    have hne := hunits hgt.ne'
    rw [Int.compare_eq_gt.mpr hgt, Int.compare_eq_gt]
    omega

/-- A number that is not blurred is compared with any number as a double. -/
theorem compare_of_not_blurred (h : ¬a.Blurred) (x : Number) :
    x.compare a = if x.isNaN || a.isNaN then none else some (Ord.compare x.units a.units) := by
  cases hx : x.integer? with
  | none => exact compare_units (.inl hx)
  | some n =>
    cases ha : a.integer? with
    | none => exact compare_units (.inr ha)
    | some m =>
      rw [compare_integers hx ha, compare_units_of_integers ha hx h, isNaN_of_integer? hx,
        isNaN_of_integer? ha]
      rfl

/-- Two different integers that are equal to one double are blurred by each other. -/
theorem compare_eq_trans {c : Number} (hab : a.compare b = some .eq)
    (hbc : b.compare c = some .eq) (h : ¬a.Blurred) : a.compare c = some .eq := by
  rw [compare_eq_trans_iff hab hbc]
  intro m n ha hc
  by_contra hne
  obtain ⟨-, hab, -⟩ := compare_eq_iff.mp hab
  obtain ⟨-, hbc, -⟩ := compare_eq_iff.mp hbc
  exact h ⟨m, n, c, ha, hc, Ne.symm hne, (hab.trans hbc).symm⟩

theorem not_blurred_of_integer?_eq_none (h : a.integer? = none) : ¬a.Blurred := by
  rintro ⟨m, n, x, ham, -⟩
  rw [h] at ham
  cases ham

/-- A number that is rounded like a blurred integer is equal to the double that it is rounded to,
but not to the integer. -/
theorem not_blurred_of_compare_congr (h : a.compare b = some .eq) (hb : b.integer? = none)
    (hall : ∀ x : Number, x.compare a = x.compare b) : ¬a.Blurred := by
  rintro ⟨m, n, x, ham, hxn, hne, hunits⟩
  obtain ⟨⟨-, hnan⟩, hab, -⟩ := compare_eq_iff.mp h
  have heq : x.compare b = some .eq := by
    rw [compare_eq_iff, hb]
    exact ⟨⟨isNaN_of_integer? hxn, hnan⟩, hunits.trans hab, nofun⟩
  rw [← hall, compare_integers hxn ham, Option.some.injEq, Int.compare_eq_eq] at heq
  exact hne heq

/-- Equal numbers are compared with all numbers alike exactly if they are the same integer or none
of them is blurred. -/
theorem compare_congr_iff (h : a.compare b = some .eq) :
    (∀ x : Number, x.compare a = x.compare b) ↔
      (∃ m, a.integer? = some m ∧ b.integer? = some m) ∨ ¬a.Blurred ∧ ¬b.Blurred := by
  obtain ⟨⟨ha, hb⟩, hunits, hint⟩ := compare_eq_iff.mp h
  constructor
  · intro hall
    cases ham : a.integer? with
    | none =>
      refine .inr ⟨not_blurred_of_integer?_eq_none ham, ?_⟩
      exact not_blurred_of_compare_congr (compare_eq_symm.mp h) ham fun x => (hall x).symm
    | some m =>
      cases hbn : b.integer? with
      | none =>
        exact .inr ⟨not_blurred_of_compare_congr h hbn hall, not_blurred_of_integer?_eq_none hbn⟩
      | some n =>
        obtain rfl := hint m n ham hbn
        exact .inl ⟨m, rfl, rfl⟩
  · rintro (⟨m, ham, hbm⟩ | ⟨hsa, hsb⟩) x
    · simp only [compare, ham, hbm, toDouble_of_integer? ham, toDouble_of_integer? hbm]
    · rw [compare_of_not_blurred hsa, compare_of_not_blurred hsb, ha, hb, hunits]

end Number

namespace Scalar

/-- Is the scalar the number that stands for no number? -/
def isNaN : Scalar → Bool
  | number n => n.isNaN
  | _ => false

/-- The integer that a scalar holds as such. -/
def integer? : Scalar → Option Int
  | number n => n.integer?
  | _ => none

/-- The scalar is an integer, and another integer is rounded to the same double. -/
def Blurred : Scalar → Prop
  | number n => n.Blurred
  | _ => False

variable {a b c : Scalar}

/-- Scalars are equal if they are equal numbers, or if they are the same and no number. -/
theorem strictEq_iff : a.strictEq b = true ↔
    (∃ m n, a = number m ∧ b = number n ∧ m.compare n = some .eq) ∨
      a = b ∧ ∀ n, a ≠ number n := by
  cases a <;> cases b <;> simp [strictEq, compare]

theorem strictEq_number (m n : Number) :
    (number m).strictEq (number n) = true ↔ m.compare n = some .eq := by
  simp [strictEq, compare]

/-- Every scalar but NaN is equal to itself. -/
theorem strictEq_self (a : Scalar) : a.strictEq a = !a.isNaN := by
  cases a with
  | number n =>
    rw [Bool.eq_iff_iff, strictEq_number, Number.compare_self, Bool.not_eq_true']
    rfl
  | null | bool _ | string _ => simp [strictEq, compare, isNaN]

theorem strictEq_comm (a b : Scalar) : a.strictEq b = b.strictEq a := by
  have hsymm {a b : Scalar} (h : a.strictEq b = true) : b.strictEq a = true := by
    rw [strictEq_iff] at h ⊢
    rcases h with ⟨m, n, rfl, rfl, h⟩ | ⟨rfl, h⟩
    · exact .inl ⟨n, m, rfl, rfl, Number.compare_eq_symm.mp h⟩
    · exact .inr ⟨rfl, h⟩
  exact Bool.eq_iff_iff.mpr ⟨hsymm, hsymm⟩

/-- A scalar that is equal to two others is one of three numbers, or the first is no number and
the same as the second. -/
theorem strictEq_chain (hab : a.strictEq b = true) (hbc : b.strictEq c = true) :
    (∃ k l m, (a = number k ∧ b = number l ∧ c = number m) ∧
      k.compare l = some .eq ∧ l.compare m = some .eq) ∨ a = b ∧ ∀ n, a ≠ number n := by
  rcases strictEq_iff.mp hab with ⟨k, l, rfl, rfl, hkl⟩ | hsame
  · rcases strictEq_iff.mp hbc with ⟨l', m, hl, rfl, hlm⟩ | ⟨-, hne⟩
    · obtain rfl : l = l' := by simpa using hl
      exact .inl ⟨k, l, m, ⟨rfl, rfl, rfl⟩, hkl, hlm⟩
    · exact absurd rfl (hne l)
  · exact .inr hsame

theorem integer?_eq_none (h : ∀ n, a ≠ number n) : a.integer? = none := by
  cases a with
  | number n => exact absurd rfl (h n)
  | null | bool _ | string _ => rfl

theorem strictEq_trans_iff (hab : a.strictEq b = true) (hbc : b.strictEq c = true) :
    a.strictEq c = true ↔ ∀ m n, a.integer? = some m → c.integer? = some n → m = n := by
  rcases strictEq_chain hab hbc with ⟨k, l, m, ⟨rfl, rfl, rfl⟩, hkl, hlm⟩ | ⟨rfl, hne⟩
  · rw [strictEq_number]
    exact Number.compare_eq_trans_iff hkl hlm
  · rw [integer?_eq_none hne]
    exact ⟨fun _ => nofun, fun _ => hbc⟩

theorem strictEq_trans (hab : a.strictEq b = true) (hbc : b.strictEq c = true) (h : ¬a.Blurred) :
    a.strictEq c = true := by
  rcases strictEq_chain hab hbc with ⟨k, l, m, ⟨rfl, rfl, rfl⟩, hkl, hlm⟩ | ⟨rfl, -⟩
  · exact (strictEq_number k m).mpr (Number.compare_eq_trans hkl hlm h)
  · exact hbc

theorem not_blurred_of_natAbs_lt (h : ∀ m, a.integer? = some m → m.natAbs < 2 ^ 53) :
    ¬a.Blurred := by
  cases a with
  | number n => exact Number.not_blurred_of_natAbs_lt h
  | null | bool _ | string _ => exact id

theorem compare_congr_iff (h : a.strictEq b = true) :
    (∀ x : Scalar, x.compare a = x.compare b) ↔
      (∃ m, a.integer? = some m ∧ b.integer? = some m) ∨ ¬a.Blurred ∧ ¬b.Blurred := by
  rcases strictEq_iff.mp h with ⟨k, l, rfl, rfl, hkl⟩ | ⟨rfl, hne⟩
  · refine Iff.trans ⟨fun hall x => hall (number x), fun hall x => ?_⟩
      (Number.compare_congr_iff hkl)
    cases x with
    | number x => exact hall x
    | null | bool _ | string _ => rfl
  · refine ⟨fun _ => .inr ?_, fun _ x => rfl⟩
    cases a with
    | number n => exact absurd rfl (hne n)
    | null | bool _ | string _ => exact ⟨id, id⟩

/-- Equal scalars that all scalars are compared with alike are of the same use. -/
theorem interchangeable_of_strictEq (h : a.strictEq b = true)
    (hall : ∀ x : Scalar, x.compare a = x.compare b) : a.Interchangeable b := by
  refine ⟨?_, hall⟩
  rcases strictEq_iff.mp h with ⟨k, l, rfl, rfl, -⟩ | ⟨rfl, -⟩
  · rfl
  · rfl

end Scalar

/-! ### Equal scalars in criteria -/

section Literals

variable {a b : Scalar} (h : a.strictEq b = true)
  (hall : ∀ x : Scalar, x.compare a = x.compare b)

include h hall

theorem Criterion.restates_literal :
    (Criterion.literal a).Restates Scalar.Interchangeable (.literal b) :=
  .literal (Scalar.interchangeable_of_strictEq h hall)

theorem Criterion.evaluate_literal_congr :
    (Criterion.literal a).evaluate = (Criterion.literal b).evaluate :=
  funext fun item => ((restates_literal h hall).same (fun _ _ hst => hst) item).1

theorem Operator.apply_literal_congr (op : Operator) (item : Option Value) :
    op.apply (.literal a) item = op.apply (.literal b) item :=
  ((Criterion.restates_literal h hall).same (fun _ _ hst => hst) item).2.2 op

theorem Operator.apply_list_congr (op : Operator) (before after : List Criterion)
    (item : Option Value) :
    op.apply (.list (before ++ .literal a :: after)) item =
      op.apply (.list (before ++ .literal b :: after)) item := by
  have hsame (cs : List Criterion) :
      List.Forall₂ (Criterion.Restates Scalar.Interchangeable) cs cs :=
    List.forall₂_same.mpr fun c _ => c.restates_refl Scalar.interchangeable_refl
  have hlist := List.rel_append (hsame before)
    (.cons (Criterion.restates_literal h hall) (hsame after))
  exact ((Criterion.Restates.list hlist).same (fun _ _ hst => hst) item).2.2 op

end Literals

/-- **How far equality is an equivalence, and equal scalars are of the same use.** -/
theorem equality_laws (a b c : Scalar) :
    -- Every scalar but NaN is equal to itself, and equality goes both ways.
    a.strictEq a = !a.isNaN ∧ a.strictEq b = b.strictEq a ∧
    -- It is transitive, unless it goes from an integer over a double to another integer, and then
    -- that integer is blurred.
    (a.strictEq b = true → b.strictEq c = true →
      (a.strictEq c = true ↔ ∀ m n, a.integer? = some m → c.integer? = some n → m = n) ∧
      (¬a.Blurred → a.strictEq c = true)) ∧
    -- Equal scalars are compared with all scalars alike exactly if they are the same integer or
    -- none of them is blurred.
    (a.strictEq b = true → ((∀ x : Scalar, x.compare a = x.compare b) ↔
      (∃ m, a.integer? = some m ∧ b.integer? = some m) ∨ ¬a.Blurred ∧ ¬b.Blurred)) ∧
    -- Below `2 ^ 53` no integer is blurred.
    ((∀ m, a.integer? = some m → m.natAbs < 2 ^ 53) → ¬a.Blurred) ∧
    -- What is compared alike is of the same use: as a literal, as the operand of any operator,
    -- and as an element of the list that is the operand of any operator.
    (a.strictEq b = true → (∀ x : Scalar, x.compare a = x.compare b) →
      (∀ item, (Criterion.literal a).evaluate item = (Criterion.literal b).evaluate item) ∧
      (∀ (op : Operator) item, op.apply (.literal a) item = op.apply (.literal b) item) ∧
      ∀ (op : Operator) before after item, op.apply (.list (before ++ .literal a :: after)) item =
        op.apply (.list (before ++ .literal b :: after)) item) := by
  refine ⟨a.strictEq_self, a.strictEq_comm b, fun hab hbc => ?_, Scalar.compare_congr_iff,
    Scalar.not_blurred_of_natAbs_lt, fun h hall => ⟨fun item => ?_, ?_, ?_⟩⟩
  · exact ⟨Scalar.strictEq_trans_iff hab hbc, Scalar.strictEq_trans hab hbc⟩
  · rw [Criterion.evaluate_literal_congr h hall]
  · exact Operator.apply_literal_congr h hall
  · exact Operator.apply_list_congr h hall

/-- Two neighbours from `2 ^ 53` on, and the double that both are equal to. -/
theorem equality_is_not_transitive :
    let a : Scalar := .number (.signed 9007199254740992)
    let b : Scalar := .number (.double ⟨0x4340000000000000⟩)
    let c : Scalar := .number (.signed 9007199254740993)
    (a.isNaN = false ∧ b.isNaN = false ∧ c.isNaN = false) ∧
      a.strictEq b = true ∧ b.strictEq c = true ∧ a.strictEq c = false ∧
      c.compare a ≠ c.compare b ∧
      ((Criterion.literal a).evaluate (some (.scalar c))).verdict = .no ∧
      ((Criterion.literal b).evaluate (some (.scalar c))).verdict = .yes := by
  decide +kernel

end RecordSieve
