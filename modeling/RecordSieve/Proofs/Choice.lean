import RecordSieve.Proofs.Conjunction
import RecordSieve.Proofs.Dotted
import RecordSieve.Proofs.Membership

/-!
# Membership and choice

There are two ways to ask whether the value at a path satisfies one of several criteria: with `$in`
under the path, and with `$or` over the path. They get on differently with errors: `$in` takes an
error for a no, and `$or` gives back the verdict on its last alternative. What they *accept* is the
same nevertheless, unless the value is an array, for then `$in` looks at its members, too.

`$all` under a path is what criteria are anyway: each of them is asked, up to the first that is not
satisfied, and its verdict stands (`Verdict.firstNotYes`). So nested criteria that share no key may
be poured together instead. **`membership_is_choice`** says all of this for elements of any shape.
-/

namespace RecordSieve

open Evaluation

/-! ### The first verdict that is not a yes -/

/-- The first of some verdicts that is not a yes; a yes if there is none. -/
def Verdict.firstNotYes (verdicts : List Verdict) : Verdict :=
  (verdicts.find? (· != .yes)).getD .yes

theorem Evaluation.verdict_all (es : List Evaluation) :
    (all es).verdict = .firstNotYes (es.map Evaluation.verdict) := by
  induction es with
  | nil => rfl
  | cons e es ih =>
    rw [all_cons, verdict_andThen, ih, List.map_cons, Verdict.firstNotYes, Verdict.firstNotYes,
      List.find?_cons]
    cases e.verdict <;> rfl

/-! ### Searching and choosing -/

variable {item : Option Value} {path : String}

namespace Criterion

/-- In what has no members, a criterion is looked for by asking it. -/
theorem found_of_membersOf_eq_nil (h : membersOf item = []) (c : Criterion) :
    c.found item = c.evaluate item := by
  rw [found_eq_any_searched, searched, h]
  exact any_singleton _

/-- A choice ends with a yes if there is an alternative that the item satisfies. -/
theorem someSatisfied_yes_iff (alternatives : List Criteria) {last : Verdict} (hlast : last ≠ .yes) :
    (someSatisfied (alternatives.map .nested) item last).verdict = .yes ↔
      ∃ q ∈ alternatives, Criteria.Accepts q item := by
  induction alternatives generalizing last with
  | nil => simpa [someSatisfied, of] using hlast
  | cons q alternatives ih =>
    rw [List.map_cons, someSatisfied, verdict_unlessYes]
    by_cases hq : (Criteria.evaluate q item).verdict = .yes
    · simp [Criteria.Accepts, hq]
    · rw [if_neg hq, ih hq]
      simp [Criteria.Accepts, hq]

end Criterion

namespace Criteria

/-- Criteria are satisfied if each of them is, also if they are poured together. -/
theorem evaluate_flatten (qs : List Criteria) (item : Option Value) :
    evaluate qs.flatten item = all (qs.map fun q => q.evaluate item) := by
  induction qs with
  | nil => rfl
  | cons q qs ih => rw [List.flatten_cons, evaluate_append, ih, List.map_cons, all_cons]

/-- Under a path, some elements are to be looked for. -/
def oneOfAt (path : String) (cs : List Criterion) : Criteria :=
  [(path, .nested [(Operator.oneOf.key, .list cs)])]

/-- Under a path, all elements are to be found. -/
def allOfAt (path : String) (cs : List Criterion) : Criteria :=
  [(path, .nested [(Operator.allOf.key, .list cs)])]

/-- One of several criteria is to be satisfied at a path. -/
def eitherAt (path : String) (cs : List Criterion) : Criteria :=
  [(Operator.either.key, .list (cs.map fun c => .nested [(path, c)]))]

theorem accepts_oneOfAt_iff (hpath : Operator.ofKey? path = none) (cs : List Criterion) :
    (oneOfAt path cs).Accepts item ↔
      ∃ c ∈ cs, (c.found (Path.resolve item path)).verdict = .yes := by
  rw [Accepts, oneOfAt, evaluate_nested_at hpath, evaluate_operator]
  exact (Operator.decides_oneOf cs _).yes_iff

theorem accepts_eitherAt_iff (hpath : Operator.ofKey? path = none) (cs : List Criterion) :
    (eitherAt path cs).Accepts item ↔ ∃ c ∈ cs, c.SatisfiedBy (Path.resolve item path) := by
  have hverdict := Operator.verdict_apply_list .either (cs.map fun c => .nested [(path, c)]) item
  have halternatives : cs.map (fun c => Criterion.nested [(path, c)]) =
      (cs.map fun c => [(path, c)]).map .nested := by
    rw [List.map_map]
    rfl
  rw [Accepts, eitherAt, evaluate_operator, hverdict, halternatives,
    Criterion.someSatisfied_yes_iff _ (by simp)]
  simp [Accepts, evaluate_at hpath, Criterion.SatisfiedBy]

theorem verdict_allOfAt (hpath : Operator.ofKey? path = none)
    (hmembers : membersOf (Path.resolve item path) = []) (cs : List Criterion) :
    ((allOfAt path cs).evaluate item).verdict =
      (all (cs.map fun c => evaluate [(path, c)] item)).verdict := by
  have hall := Operator.verdict_apply_list .allOf cs (Path.resolve item path)
  rw [allOfAt, evaluate_nested_at hpath, evaluate_operator, hall, Criterion.everyFound_eq_all]
  simp only [Criterion.found_of_membersOf_eq_nil hmembers, evaluate_at hpath]

end Criteria

/-- **Membership is choice, and where all is asked for, conjunction.** -/
theorem membership_is_choice (item : Option Value) {path : String}
    (hpath : Operator.ofKey? path = none) (cs : List Criterion) :
    -- An alternative that is satisfied at the path is an element that is found there.
    ((Criteria.eitherAt path cs).Accepts item → (Criteria.oneOfAt path cs).Accepts item) ∧
    -- Where there is no array, the converse is true,
    ((∀ vs, Path.resolve item path ≠ some (.array vs)) →
      ((Criteria.oneOfAt path cs).Accepts item ↔ (Criteria.eitherAt path cs).Accepts item) ∧
      -- and the first element that is not satisfied, if any, decides whether all are found.
      ((Criteria.allOfAt path cs).evaluate item).verdict =
        .firstNotYes (cs.map fun c => (Criteria.evaluate [(path, c)] item).verdict) ∧
      -- Nested criteria without common keys are asked for as one, with the same error if any.
      ∀ qs : List Criteria, cs = qs.map .nested → (∀ q ∈ qs, (Fields.keys q).Nodup) →
        qs.Pairwise (fun q r => (Fields.keys q).Disjoint (Fields.keys r)) →
        ((Criteria.allOfAt path cs).evaluate item).verdict =
          (Criteria.evaluate [(path, .nested (Fields.ofPairs qs.flatten))] item).verdict) := by
  refine ⟨fun h => ?_, fun hitem => ?_⟩
  · obtain ⟨c, hc, hsatisfied⟩ := (Criteria.accepts_eitherAt_iff hpath cs).mp h
    exact (Criteria.accepts_oneOfAt_iff hpath cs).mpr
      ⟨c, hc, Criterion.found_of_satisfiedBy_item hsatisfied⟩
  · have hmembers : membersOf (Path.resolve item path) = [] := by
      cases hvalue : Path.resolve item path with
      | none => rfl
      | some v =>
        cases v with
        | array vs => exact absurd hvalue (hitem vs)
        | scalar | object => rfl
    have hall := Criteria.verdict_allOfAt hpath hmembers cs
    refine ⟨?_, ?_, fun qs hcs hkeys hdisjoint => ?_⟩
    · rw [Criteria.accepts_oneOfAt_iff hpath, Criteria.accepts_eitherAt_iff hpath]
      simp only [Criterion.found_of_membersOf_eq_nil hmembers, Criterion.SatisfiedBy]
    · rw [hall, verdict_all, List.map_map]
      rfl
    · have hnodup : (Fields.keys qs.flatten).Nodup := by
        rw [Fields.keys, List.map_flatten, List.nodup_flatten]
        exact ⟨List.forall_mem_map.mpr hkeys, List.pairwise_map.mpr hdisjoint⟩
      rw [hall, Fields.ofPairs_of_nodup hnodup, Criteria.evaluate_nested_at hpath,
        Criteria.evaluate_flatten, hcs, List.map_map]
      congr 3
      funext q
      exact Criteria.evaluate_nested_at hpath item

/-- Criteria without common keys, of which the second ones cannot be decided. -/
def ageBounds : List Criteria := [[("$gte", .literal (.number (.signed 18)))], [("$lt", .list [])]]

/-- Where one bound is kept, the value is chosen, for the bound that cannot be decided comes too late.
Where both are asked for, its error is that of both. -/
theorem bounds_are_asked_for_as_one :
    let ann : Option Value := some (.object [("age", .scalar (.number (.signed 30)))])
    let both := Fields.ofPairs ageBounds.flatten
    Operator.ofKey? "age" = none ∧ (∀ vs, Path.resolve ann "age" ≠ some (.array vs)) ∧
      (Criteria.oneOfAt "age" (ageBounds.map .nested)).Accepts ann ∧
      ((Criteria.allOfAt "age" (ageBounds.map .nested)).evaluate ann).verdict =
        (Criteria.evaluate [("age", .nested both)] ann).verdict ∧
      (Criteria.evaluate [("age", .nested both)] ann).verdict =
        .error (.mismatch .less .scalar .list) := by
  intro ann both
  have hpath : Operator.ofKey? "age" = none := by decide +kernel
  have hitem (vs : List Value) : Path.resolve ann "age" ≠ some (.array vs) := by
    rw [Path.resolve_of_not_mem (by decide)]
    exact nofun
  obtain ⟨hiff, -, hboth⟩ := (membership_is_choice ann hpath (ageBounds.map .nested)).2 hitem
  have heither : (Criteria.eitherAt "age" (ageBounds.map .nested)).Accepts ann := by
    rw [Criteria.Accepts]
    decide +kernel
  exact ⟨hpath, hitem, hiff.mpr heither, hboth ageBounds rfl (by decide) (by simp [ageBounds]),
    by decide +kernel⟩

end RecordSieve
