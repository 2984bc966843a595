import RecordSieve.Proofs.NumberOrder

/-!
# Order and equality of scalars

A literal asks whether an item is equal to it, `$ne` asks the opposite, and four operators ask how
the item stands to it. The answers fit together. Where item and literal are *ordered*, that is of
one type, no null and no NaN, a comparison has a result (`Scalar.exists_compare_iff`), so the item is
less, greater or equal, and only one of these. Where they are not, no operator accepts that asks for
an order, though null is equal to null.

**`order_and_equality_agree`** says this of the operators, of all items, and that none of them errs
with a scalar as its operand.
-/

namespace RecordSieve

namespace Scalar

variable {s t : Scalar}

/-- The scalars are of one type that has an order, and none of them is NaN. -/
@[mk_iff]
structure OrderedWith (s t : Scalar) : Prop where
  /-- They are of one type, -/
  type_eq : (Value.scalar s).typeName = (Value.scalar t).typeName
  /-- which is not that of null, -/
  ne_null : s ≠ null ∧ t ≠ null
  /-- and both are worth something if they are numbers. -/
  not_nan : s.isNaN = false ∧ t.isNaN = false

/-- What is compared is ordered, and what is ordered is compared. -/
theorem exists_compare_iff : (∃ o, s.compare t = some o) ↔ s.OrderedWith t := by
  have hnumbers (m n : Number) :
      (∃ o, m.compare n = some o) ↔ m.isNaN = false ∧ n.isNaN = false := by
    rw [← Option.ne_none_iff_exists', Ne, Number.compare_eq_none_iff, not_or, Bool.not_eq_true,
      Bool.not_eq_true]
  rw [orderedWith_iff]
  cases s <;> cases t <;> simp [compare, Value.typeName, isNaN, hnumbers]

/-- Read from the other side, the order is the other way round. -/
theorem compare_swap (s t : Scalar) : t.compare s = (s.compare t).map Ordering.swap := by
  cases s <;> cases t <;> try rfl
  case bool.bool a b => exact congrArg some Std.OrientedOrd.eq_swap
  case number.number m n => exact Number.compare_swap m n
  case string.string a b => exact congrArg some Std.OrientedOrd.eq_swap

end Scalar

/-- **Order and equality agree.** -/
theorem order_and_equality_agree (item : Option Value) (x : Scalar) :
    -- An item is equal to the literal or not, and `$ne` says the opposite.
    ∃ equal : Bool,
      ((Criterion.literal x).evaluate item).verdict = .ofBool equal ∧
      (Operator.unequal.apply (.literal x) item).verdict = .ofBool (!equal) ∧
      -- A scalar that is ordered with the literal is less, greater or equal. The other operators
      -- put two of these together, and less and greater are changed round with the scalars.
      (∀ s, item = some (.scalar s) → s.OrderedWith x → ∃ less greater : Bool,
        [less, greater, equal].count true = 1 ∧
        (Operator.less.apply (.literal x) item).verdict = .ofBool less ∧
        (Operator.greater.apply (.literal x) item).verdict = .ofBool greater ∧
        (Operator.atMost.apply (.literal x) item).verdict = .ofBool (less || equal) ∧
        (Operator.atLeast.apply (.literal x) item).verdict = .ofBool (greater || equal) ∧
        (Operator.less.apply (.literal s) (some (.scalar x))).verdict = .ofBool greater ∧
        (Operator.greater.apply (.literal s) (some (.scalar x))).verdict = .ofBool less) ∧
      -- Of anything else no order is accepted.
      ((∀ s, item = some (.scalar s) → ¬s.OrderedWith x) →
        ∀ op ∈ Operator.ordering, (op.apply (.literal x) item).verdict = .no) := by
  refine ⟨isScalar item x, rfl, rfl, ?_, fun hunordered op hop => ?_⟩
  · rintro s rfl hordered
    obtain ⟨o, ho⟩ := Scalar.exists_compare_iff.mpr hordered
    have hequal : isScalar (some (.scalar s)) x = (o == .eq) := by
      rw [← Option.some_beq_some, ← ho, ← Scalar.strictEq_of_ne_null hordered.ne_null.2]
      rfl
    have hverdict {op : Operator} (hop : op ∈ Operator.ordering) :
        (op.apply (.literal x) (some (.scalar s))).verdict = .ofBool (op.allows o) := by
      rw [Operator.verdict_of_mem_ordering hop]
      simp [Value.scalar?, ho]
    have hswapped {op : Operator} (hop : op ∈ Operator.ordering) :
        (op.apply (.literal s) (some (.scalar x))).verdict = .ofBool (op.allows o.swap) := by
      rw [Operator.verdict_of_mem_ordering hop]
      simp [Value.scalar?, Scalar.compare_swap s x, ho]
    refine ⟨o == .lt, o == .gt, ?_, ?_⟩
    · rw [hequal]
      cases o <;> rfl
    · rw [hverdict (by decide), hverdict (by decide), hverdict (by decide), hverdict (by decide),
        hswapped (by decide), hswapped (by decide), hequal]
      cases o <;> decide
  · rw [Operator.verdict_of_mem_ordering hop]
    cases hscalar : item.bind Value.scalar? with
    | none => rfl
    | some s =>
      have hitem : item = some (.scalar s) := by
        rcases item with _ | (_ | _ | _) <;> cases hscalar
        rfl
      cases ho : s.compare x with
      | none => simp [ho, Verdict.ofBool]
      | some o => exact absurd (Scalar.exists_compare_iff.mp ⟨o, ho⟩) (hunordered s hitem)

/-- Null is equal to null, but it does not come at or after it. -/
example :
    ((Criterion.literal .null).evaluate (some (.scalar .null))).verdict = .yes ∧
      (Operator.atLeast.apply (.literal .null) (some (.scalar .null))).verdict = .no := by
  decide

end RecordSieve
