import RecordSieve.Proofs.Membership

/-!
# Lists in two parts

Wherever the evaluator walks along a list, it can be cut at any place: the front part is evaluated
as if it were the whole list, and if that is not final, the back part is evaluated as if it stood
alone. What is *final* differs, and so does what becomes of an error. Entries of criteria, positions
and `$all` end with anything but a yes; `$in` and `$or` end with a yes, whatever errors there were
before, and `$nin` ends with the no that a yes of its search becomes.

`Evaluation.InTurn` says this of three evaluations, with dispatches: after a final verdict nothing
of the back part is dispatched, and otherwise its dispatches stand behind those of the front part.
The operator that the list is the operand of is dispatched once. **`lists_in_turn`** has one law for
each form of list.
-/

namespace RecordSieve

namespace Evaluation

/-- The evaluation `whole` of a list is made up of those of its front part and of its back part.
The back part counts where the verdict on the front part is not final. Of its dispatches, the
first `own` are those of the operator that the list belongs to; they are noted only once. -/
structure InTurn (final : Verdict → Prop) (own : Nat) (front back whole : Evaluation) : Prop where
  /-- After a final verdict, nothing of the back part is evaluated. -/
  stops : final front.verdict → whole = front
  /-- Otherwise the verdict on the back part counts. -/
  verdict_eq : ¬final front.verdict → whole.verdict = back.verdict
  /-- Its dispatches come behind those of the front part. -/
  dispatches_eq : ¬final front.verdict →
    whole.dispatches = front.dispatches ++ back.dispatches.drop own

variable {front back whole : Evaluation} {final : Verdict → Prop}

theorem inTurn_andThen (front back : Evaluation) :
    InTurn (· ≠ .yes) 0 front back (front.andThen back) := by
  obtain ⟨v, ds⟩ := front
  cases v with
  | yes => exact ⟨fun h => absurd rfl h, fun _ => rfl, fun _ => rfl⟩
  | no | error _ => exact ⟨fun _ => rfl, fun h => absurd nofun h, fun h => absurd nofun h⟩

theorem inTurn_orElse (front back : Evaluation) :
    InTurn (· ≠ .no) 0 front back (front.orElse back) := by
  obtain ⟨v, ds⟩ := front
  cases v with
  | no => exact ⟨fun h => absurd rfl h, fun _ => rfl, fun _ => rfl⟩
  | yes | error _ => exact ⟨fun _ => rfl, fun h => absurd nofun h, fun h => absurd nofun h⟩

theorem inTurn_unlessYes (front back : Evaluation) :
    InTurn (· = .yes) 0 front back (front.unlessYes fun _ => back) := by
  obtain ⟨v, ds⟩ := front
  cases v with
  | yes => exact ⟨fun _ => rfl, fun h => absurd rfl h, fun h => absurd rfl h⟩
  | no | error _ => exact ⟨nofun, fun _ => rfl, fun _ => rfl⟩

theorem unlessYes_of_ne_yes {v : Verdict} (hv : v ≠ .yes) (ds : List Dispatch)
    (next : Verdict → Evaluation) : unlessYes ⟨v, ds⟩ next = (next v).after ds := by
  cases v with
  | yes => exact absurd rfl hv
  | no | error _ => rfl

/-- How things go on is asked of what is no yes. -/
theorem unlessYes_congr (e : Evaluation) {f g : Verdict → Evaluation}
    (h : ∀ v, v ≠ .yes → f v = g v) : e.unlessYes f = e.unlessYes g := by
  obtain ⟨v, ds⟩ := e
  by_cases hv : v = .yes
  · subst hv
    rfl
  · rw [unlessYes_of_ne_yes hv, unlessYes_of_ne_yes hv, h v hv]

theorem unlessYes_unlessYes (e : Evaluation) (f g : Verdict → Evaluation) :
    (e.unlessYes f).unlessYes g = e.unlessYes fun v => (f v).unlessYes g := by
  obtain ⟨v, ds⟩ := e
  by_cases hv : v = .yes
  · subst hv
    rfl
  · rw [unlessYes_of_ne_yes hv, unlessYes_of_ne_yes hv]
    obtain ⟨w, es⟩ := f v
    cases w <;> simp [unlessYes, after]

/-- What is final matters for the verdict on the front part only. -/
theorem InTurn.final_congr {ends : Verdict → Prop} {own : Nat}
    (h : InTurn final own front back whole) (hiff : ends front.verdict ↔ final front.verdict) :
    InTurn ends own front back whole :=
  ⟨fun he => h.stops (hiff.mp he), fun he => h.verdict_eq fun hf => he (hiff.mpr hf),
    fun he => h.dispatches_eq fun hf => he (hiff.mpr hf)⟩

/-- The opposite verdicts are final if the verdicts are. -/
theorem InTurn.negated {own : Nat} (h : InTurn (· = .yes) own front back whole) :
    InTurn (· = .no) own front.negated back.negated whole.negated := by
  have hno : front.negated.verdict = .no ↔ front.verdict = .yes := by
    rw [verdict_negated]
    cases front.verdict <;> simp [Verdict.negated]
  refine ⟨fun hf => ?_, fun hf => ?_, fun hf => ?_⟩
  · rw [h.stops (hno.mp hf)]
  · rw [verdict_negated, verdict_negated, h.verdict_eq fun hyes => hf (hno.mpr hyes)]
  · exact h.dispatches_eq fun hyes => hf (hno.mpr hyes)

/-- The operator is dispatched before the front part, and not again before the back part. -/
theorem InTurn.ofOperator (h : InTurn final 0 front back whole) (op : Operator)
    (item : Option Value) :
    InTurn final op.chain.length (ofOperator op item front) (ofOperator op item back)
      (ofOperator op item whole) := by
  refine ⟨fun hf => ?_, h.verdict_eq, fun hf => ?_⟩
  · rw [h.stops hf]
  · have hdispatches := h.dispatches_eq hf
    simp only [Evaluation.ofOperator, after, hdispatches, List.drop_zero]
    rw [List.append_assoc, List.drop_left' (List.length_map _)]

end Evaluation

open Evaluation

/-! ### The lists of the evaluator -/

/-- The item without its first `n` members, if it is an array, and no value if it is not. -/
def itemBehind (n : Nat) : Option Value → Option Value
  | some (.array vs) => some (.array (vs.drop n))
  | _ => none

theorem membersOf_itemBehind (n : Nat) (item : Option Value) :
    membersOf (itemBehind n item) = (membersOf item).drop n := by
  match item with
  | some (.array vs) => rfl
  | some (.scalar _) | some (.object _) | none => exact List.drop_nil.symm

namespace Criterion

variable (xs ys : List Criterion) (item : Option Value)

theorem everyFound_append :
    everyFound (xs ++ ys) item = (everyFound xs item).andThen (everyFound ys item) := by
  rw [everyFound_eq_all, List.map_append, all_append, ← everyFound_eq_all, ← everyFound_eq_all]

theorem someFound_append :
    someFound (xs ++ ys) item = (someFound xs item).orElse (someFound ys item) := by
  rw [someFound_eq_any, List.map_append, any_append, ← someFound_eq_any, ← someFound_eq_any]

/-- The back part is asked of the positions behind those of the front part. -/
theorem evaluateEach_append (vs : List Value) :
    evaluateEach (xs ++ ys) vs =
      (evaluateEach xs vs).andThen (evaluateEach ys (vs.drop xs.length)) := by
  induction xs generalizing vs with
  | nil => rfl
  | cons c xs ih =>
    rw [List.cons_append, evaluateEach, ih, evaluateEach, andThen_assoc, List.length_cons,
      List.drop_tail]

theorem evaluate_list_append :
    (Criterion.list (xs ++ ys)).evaluate item = ((Criterion.list xs).evaluate item).andThen
      ((Criterion.list ys).evaluate (itemBehind xs.length item)) := by
  rw [evaluate_list, evaluateEach_append, evaluate_list, evaluate_list, membersOf_itemBehind]

variable {ys}

/-- The verdict so far is forgotten where there is another alternative. -/
theorem someSatisfied_of_ne_nil (hne : ys ≠ []) (v w : Verdict) :
    someSatisfied ys item v = someSatisfied ys item w := by
  cases ys with
  | nil => exact absurd rfl hne
  | cons c ys => cases c <;> rfl

/-- Alternatives behind others are asked unless one of those was satisfied, and then their verdict
stands, whatever became of the others. -/
theorem someSatisfied_append (alternatives : List Criteria) (hne : ys ≠ []) {last : Verdict}
    (hlast : last ≠ .yes) :
    someSatisfied (alternatives.map .nested ++ ys) item last =
      (someSatisfied (alternatives.map .nested) item last).unlessYes
        fun _ => someSatisfied ys item last := by
  induction alternatives generalizing last with
  | nil =>
    cases last with
    | yes => exact absurd rfl hlast
    | no | error _ => rfl
  | cons q alternatives ih =>
    rw [List.map_cons, List.cons_append, someSatisfied, someSatisfied, unlessYes_unlessYes]
    refine unlessYes_congr _ fun v hv => ?_
    rw [ih hv, someSatisfied_of_ne_nil item hne v last]

end Criterion

/-! ### Operators -/

namespace Operator

variable (item : Option Value)

theorem inTurn_allOf (xs ys : List Criterion) :
    InTurn (· ≠ .yes) 1 (allOf.apply (.list xs) item) (allOf.apply (.list ys) item)
      (allOf.apply (.list (xs ++ ys)) item) := by
  have hfound := inTurn_andThen (Criterion.everyFound xs item) (Criterion.everyFound ys item)
  rw [← Criterion.everyFound_append] at hfound
  exact hfound.ofOperator allOf item

/-- The search of both membership operators ends with a yes, for it never ends with an error. -/
theorem inTurn_someFound (xs ys : List Criterion) :
    InTurn (· = .yes) 0 (Criterion.someFound xs item) (Criterion.someFound ys item)
      (Criterion.someFound (xs ++ ys) item) := by
  have hfound := inTurn_orElse (Criterion.someFound xs item) (Criterion.someFound ys item)
  rw [← Criterion.someFound_append] at hfound
  refine hfound.final_congr ?_
  rcases (Criterion.decides_someFound xs item).yes_or_no with hv | hv <;> simp [hv]

theorem inTurn_oneOf (xs ys : List Criterion) :
    InTurn (· = .yes) 1 (oneOf.apply (.list xs) item) (oneOf.apply (.list ys) item)
      (oneOf.apply (.list (xs ++ ys)) item) :=
  (inTurn_someFound item xs ys).ofOperator oneOf item

theorem inTurn_noneOf (xs ys : List Criterion) :
    InTurn (· = .no) 2 (noneOf.apply (.list xs) item) (noneOf.apply (.list ys) item)
      (noneOf.apply (.list (xs ++ ys)) item) :=
  (inTurn_someFound item xs ys).negated.ofOperator noneOf item

theorem inTurn_either (alternatives : List Criteria) {ys : List Criterion} (hne : ys ≠ []) :
    InTurn (· = .yes) 1 (either.apply (.list (alternatives.map .nested)) item)
      (either.apply (.list ys) item)
      (either.apply (.list (alternatives.map .nested ++ ys)) item) := by
  have hlast : Verdict.error .noAlternatives ≠ .yes := nofun
  have hsatisfied := inTurn_unlessYes
    (Criterion.someSatisfied (alternatives.map .nested) item (.error .noAlternatives))
    (Criterion.someSatisfied ys item (.error .noAlternatives))
  rw [← Criterion.someSatisfied_append item alternatives hne hlast] at hsatisfied
  exact hsatisfied.ofOperator either item

theorem exists_verdict_oneOf (cs : List Criterion) :
    ∃ b, (oneOf.apply (.list cs) item).verdict = .ofBool b := by
  rcases (decides_oneOf cs item).yes_or_no with hv | hv
  · exact ⟨true, hv⟩
  · exact ⟨false, hv⟩

/-- What one of two lists holds is found if it is found in one of them. -/
theorem exists_verdicts_oneOf (xs ys : List Criterion) :
    ∃ a b, (oneOf.apply (.list xs) item).verdict = .ofBool a ∧
      (oneOf.apply (.list ys) item).verdict = .ofBool b ∧
      (oneOf.apply (.list (xs ++ ys)) item).verdict = .ofBool (a || b) := by
  obtain ⟨a, ha⟩ := exists_verdict_oneOf item xs
  obtain ⟨b, hb⟩ := exists_verdict_oneOf item ys
  have hturn := inTurn_oneOf item xs ys
  refine ⟨a, b, ha, hb, ?_⟩
  cases a with
  | true => rw [hturn.stops ha, ha]; rfl
  | false => rw [hturn.verdict_eq (by rw [ha]; exact nofun), hb]; rfl

end Operator

/-- **A list can be cut at any place.** -/
theorem lists_in_turn (item : Option Value) :
    -- Entries of criteria, elements of `$all` and positions end with anything but a yes. The
    -- positions behind those of the front part are those of the members behind.
    (∀ xs ys : Criteria,
      InTurn (· ≠ .yes) 0 (xs.evaluate item) (ys.evaluate item)
        (Criteria.evaluate (xs ++ ys) item)) ∧
    (∀ xs ys : List Criterion,
      InTurn (· ≠ .yes) 1 (Operator.allOf.apply (.list xs) item)
        (Operator.allOf.apply (.list ys) item) (Operator.allOf.apply (.list (xs ++ ys)) item)) ∧
    (∀ xs ys : List Criterion,
      InTurn (· ≠ .yes) 0 ((Criterion.list xs).evaluate item)
        ((Criterion.list ys).evaluate (itemBehind xs.length item))
        ((Criterion.list (xs ++ ys)).evaluate item)) ∧
    -- Elements of `$in` end with a yes, and those of `$nin` with the no that it becomes.
    (∀ xs ys : List Criterion, ∃ a b,
      (Operator.oneOf.apply (.list xs) item).verdict = .ofBool a ∧
      (Operator.oneOf.apply (.list ys) item).verdict = .ofBool b ∧
      (Operator.oneOf.apply (.list (xs ++ ys)) item).verdict = .ofBool (a || b) ∧
      (Operator.noneOf.apply (.list (xs ++ ys)) item).verdict = .ofBool (!a && !b)) ∧
    (∀ xs ys : List Criterion,
      InTurn (· = .yes) 1 (Operator.oneOf.apply (.list xs) item)
        (Operator.oneOf.apply (.list ys) item) (Operator.oneOf.apply (.list (xs ++ ys)) item) ∧
      InTurn (· = .no) 2 (Operator.noneOf.apply (.list xs) item)
        (Operator.noneOf.apply (.list ys) item) (Operator.noneOf.apply (.list (xs ++ ys)) item)) ∧
    -- Alternatives end with a yes; without one, there must be some for their verdict to stand.
    ∀ xs ys : List Criteria, ys ≠ [] →
      InTurn (· = .yes) 1 (Operator.either.apply (.list (xs.map .nested)) item)
        (Operator.either.apply (.list (ys.map .nested)) item)
        (Operator.either.apply (.list ((xs ++ ys).map .nested)) item) := by
  refine ⟨fun xs ys => ?entries, fun xs ys => Operator.inTurn_allOf item xs ys,
    fun xs ys => ?positions, fun xs ys => ?membership,
    fun xs ys => ⟨Operator.inTurn_oneOf item xs ys, Operator.inTurn_noneOf item xs ys⟩,
    fun xs ys hne => ?alternatives⟩
  case entries =>
    rw [Criteria.evaluate_append]
    exact inTurn_andThen _ _
  case positions =>
    rw [Criterion.evaluate_list_append]
    exact inTurn_andThen _ _
  case membership =>
    obtain ⟨a, b, ha, hb, hboth⟩ := Operator.exists_verdicts_oneOf item xs ys
    refine ⟨a, b, ha, hb, hboth, ?_⟩
    rw [Operator.verdict_noneOf, hboth]
    cases a <;> cases b <;> rfl
  case alternatives =>
    rw [List.map_append]
    exact Operator.inTurn_either item xs (by simpa using hne)

/-- Two alternatives: one that cannot be decided, and one that every value satisfies. -/
def decidedByPresence : List Criteria := [[("$gt", .nested [])], [("$exists", .literal .null)]]

/-- An alternative that cannot be decided either. -/
def undecided : Criteria := [("$lt", .list [])]

/-- The error before the yes is forgotten, and the alternative behind it is not asked. -/
theorem last_alternative_is_skipped :
    [undecided] ≠ [] ∧
      Operator.either.apply (.list ((decidedByPresence ++ [undecided]).map .nested))
        (some (.scalar .null)) =
        ⟨.yes, [⟨.either, some (.scalar .null)⟩, ⟨.greater, some (.scalar .null)⟩,
          ⟨.present, some (.scalar .null)⟩]⟩ := by
  have hne : [undecided] ≠ [] := List.cons_ne_nil _ _
  have hturn :=
    (lists_in_turn (some (.scalar .null))).2.2.2.2.2 decidedByPresence [undecided] hne
  refine ⟨hne, ?_⟩
  rw [hturn.stops (by decide +kernel)]
  decide +kernel

end RecordSieve
