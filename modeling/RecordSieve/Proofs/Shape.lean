import RecordSieve.Evaluation
import RecordSieve.Proofs.Criterion

/-!
# Well-shaped criteria

Criteria are *well-shaped* if at every depth each operator finds an operand that it can use: the
comparisons a literal, the membership operators a list of well-shaped candidates, and the choice
between alternatives at least one, each of them nested criteria and well-shaped itself. What
stands under any other key, and what stands in a list, is well-shaped as well. Presence ignores
its operand, so anything may stand there.

The shape does not depend on an item, so it can be found out beforehand: `Criterion.isWellShaped`
walks over the criterion once.
-/

namespace RecordSieve

/-- What an operator expects of its operand, if it looks at it. -/
def Operator.expects : Operator → Option Expected
  | .greater | .atLeast | .less | .atMost | .unequal => some .scalar
  | .present => none
  | .oneOf | .noneOf | .allOf => some .list
  | .either => some .listOfCriteria

mutual

/-- The criterion has the shape that its evaluation asks for, at every depth. -/
inductive Criterion.WellShaped : Criterion → Prop
  /-- A literal can be compared with anything. -/
  | literal (s : Scalar) : Criterion.WellShaped (.literal s)
  /-- A pattern can be tried on anything. -/
  | pattern (p : Pattern) : Criterion.WellShaped (.pattern p)
  /-- The elements of a list are well-shaped. -/
  | list {cs : List Criterion} : (∀ c ∈ cs, Criterion.WellShaped c) → Criterion.WellShaped (.list cs)
  /-- Operators take what stands under their keys, and all else is well-shaped. -/
  | nested {entries : Criteria} :
      (∀ key op c, (key, c) ∈ entries → Operator.ofKey? key = some op → Operator.Takes op c) →
      (∀ key c, (key, c) ∈ entries → Operator.ofKey? key = none → Criterion.WellShaped c) →
      Criterion.WellShaped (.nested entries)

/-- The operator can use the operand. -/
inductive Operator.Takes : Operator → Criterion → Prop
  /-- Where the operand is ignored, it may be anything. -/
  | anything {op : Operator} (c : Criterion) : op.expects = none → Operator.Takes op c
  /-- A literal to compare with. -/
  | scalar {op : Operator} (s : Scalar) : op.expects = some .scalar → Operator.Takes op (.literal s)
  /-- A list of candidates to look for. -/
  | list {op : Operator} {cs : List Criterion} : op.expects = some .list →
      (∀ c ∈ cs, Criterion.WellShaped c) → Operator.Takes op (.list cs)
  /-- A list of alternatives to choose from. -/
  | listOfCriteria {op : Operator} {cs : List Criterion} : op.expects = some .listOfCriteria →
      cs ≠ [] → (∀ c ∈ cs, c.criteria?.isSome) → (∀ c ∈ cs, Criterion.WellShaped c) →
      Operator.Takes op (.list cs)

end

/-- Nested criteria are well-shaped if each entry is, read by its key. -/
theorem Criterion.wellShaped_nested {entries : Criteria}
    (h : ∀ e ∈ entries, match Operator.ofKey? e.1 with
      | some op => op.Takes e.2
      | none => e.2.WellShaped) : (Criterion.nested entries).WellShaped := by
  refine .nested (fun key op c he hkey => ?_) (fun key c he hkey => ?_)
  · simpa only [hkey] using h (key, c) he
  · simpa only [hkey] using h (key, c) he

/-! ### Finding out the shape -/

/-- Has the operand the form that the operator expects, whatever is inside? -/
def Operator.fits (op : Operator) (operand : Criterion) : Bool :=
  match op.expects with
  | none => true
  | some .scalar => operand.scalar?.isSome
  | some .list => operand.list?.isSome
  | some .listOfCriteria =>
    operand.list?.any fun cs => !cs.isEmpty && cs.all (·.criteria?.isSome)

/-- An operator takes an operand that has the form it expects and is well-shaped inside. -/
theorem Operator.takes_iff {op : Operator} {operand : Criterion} :
    op.Takes operand ↔ op.fits operand = true ∧ (op.expects.isSome → operand.WellShaped) := by
  constructor
  · intro htakes
    cases htakes with
    | anything c hop => simp [fits, hop]
    | scalar s hop => exact ⟨by simp [fits, hop, Criterion.scalar?], fun _ => .literal s⟩
    | list hop hcs => exact ⟨by simp [fits, hop, Criterion.list?], fun _ => .list hcs⟩
    | listOfCriteria hop hne hcriteria hcs =>
      exact ⟨by simpa [fits, hop, Criterion.list?] using ⟨hne, hcriteria⟩, fun _ => .list hcs⟩
  · rintro ⟨hfits, hshaped⟩
    cases hop : op.expects with
    | none => exact .anything _ hop
    | some expected =>
      have hinside : operand.WellShaped := hshaped (by rw [hop]; rfl)
      cases hinside with
      | literal s =>
        cases expected with
        | scalar => exact .scalar s hop
        | list | listOfCriteria => simp [fits, hop, Criterion.list?] at hfits
      | pattern _ | nested _ =>
        cases expected <;> simp [fits, hop, Criterion.scalar?, Criterion.list?] at hfits
      | list hcs =>
        cases expected with
        | scalar => simp [fits, hop, Criterion.scalar?] at hfits
        | list => exact .list hop hcs
        | listOfCriteria =>
          simp [fits, hop, Criterion.list?] at hfits
          exact .listOfCriteria hop hfits.1 hfits.2 hcs

mutual

/-- Is the criterion well-shaped? -/
def Criterion.isWellShaped : Criterion → Bool
  | .literal _ => true
  | .pattern _ => true
  | .list cs => Criterion.areWellShaped cs
  | .nested entries => Criteria.areWellShaped entries
termination_by structural c => c

/-- Are all of some criteria well-shaped? -/
def Criterion.areWellShaped : List Criterion → Bool
  | [] => true
  | c :: cs => c.isWellShaped && Criterion.areWellShaped cs
termination_by structural cs => cs

/-- Is what stands under each key well-shaped, or taken by the operator that the key names? -/
def Criteria.areWellShaped : Criteria → Bool
  | [] => true
  | (key, c) :: entries =>
    (match Operator.ofKey? key with
      | some op => op.fits c && (op.expects.isNone || c.isWellShaped)
      | none => c.isWellShaped) && Criteria.areWellShaped entries
termination_by structural entries => entries

end

theorem Criterion.areWellShaped_eq_all (cs : List Criterion) :
    areWellShaped cs = cs.all isWellShaped := by
  induction cs with
  | nil => rfl
  | cons c cs ih => rw [areWellShaped, ih, List.all_cons]

theorem Criteria.areWellShaped_eq_all (entries : Criteria) :
    areWellShaped entries = entries.all fun e =>
      match Operator.ofKey? e.1 with
      | some op => op.fits e.2 && (op.expects.isNone || e.2.isWellShaped)
      | none => e.2.isWellShaped := by
  induction entries with
  | nil => rfl
  | cons e entries ih => rw [areWellShaped, ih, List.all_cons]

theorem Criterion.isWellShaped_iff (c : Criterion) : c.isWellShaped = true ↔ c.WellShaped := by
  induction c with
  | literal s => exact iff_of_true rfl (.literal s)
  | pattern p => exact iff_of_true rfl (.pattern p)
  | list cs ih =>
    rw [isWellShaped, areWellShaped_eq_all, List.all_eq_true]
    refine ⟨fun h => .list fun c hc => (ih c hc).mp (h c hc), fun h c hc => ?_⟩
    cases h with
    | list hcs => exact (ih c hc).mpr (hcs c hc)
  | nested entries ih =>
    have htakes (e : String × Criterion) (he : e ∈ entries) (op : Operator) :
        (op.fits e.2 && (op.expects.isNone || e.2.isWellShaped)) = true ↔ op.Takes e.2 := by
      rw [Operator.takes_iff, ← ih e he]
      cases op.expects <;> simp
    rw [isWellShaped, Criteria.areWellShaped_eq_all, List.all_eq_true]
    constructor
    · intro h
      refine wellShaped_nested fun e he => ?_
      have hentry := h e he
      cases hkey : Operator.ofKey? e.1 with
      | some op =>
        simp only [hkey] at hentry
        exact (htakes e he op).mp hentry
      | none =>
        simp only [hkey] at hentry
        exact (ih e he).mp hentry
    · intro h e he
      cases h with
      | nested hoperators hpaths =>
        cases hkey : Operator.ofKey? e.1 with
        | some op => exact (htakes e he op).mpr (hoperators e.1 op e.2 he hkey)
        | none => exact (ih e he).mpr (hpaths e.1 e.2 he hkey)

instance : DecidablePred Criterion.WellShaped :=
  fun c => decidable_of_iff _ c.isWellShaped_iff

end RecordSieve
