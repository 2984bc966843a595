import RecordSieve.Proofs.Construction

/-!
# Steps of building add up

Steps that leave each other's work alone (`Criteria.Step.Apart`) build criteria that ask for
everything that the steps ask for. That is plain where each step writes a key of its own, for then
it adds an entry at the end. A step that refines a path which is refined already adds to the entry
that stands there, so what it asks for is asked earlier than the step comes, next to what other
steps ask of the path. This moves errors, but not what is accepted: criteria are accepted if all
entries are, however these are grouped (`Criteria.accepts_nested_append`).

One step adds what it asks for to criteria in which it overwrites nothing
(`Criteria.Step.JoinsIn`). The invariant that carries this through a run is that under each path
that was refined stand its refinements, in order, and nothing else (`Criteria.lookup_build`).
**`building_is_conjunction`** says what a whole run builds.
-/

namespace RecordSieve

open Evaluation

namespace Criteria

/-! ### What criteria accept -/

/-- The item satisfies the criteria. -/
def Accepts (q : Criteria) (item : Option Value) : Prop := (q.evaluate item).verdict = .yes

variable {q : Criteria} {item : Option Value} {path : String}

theorem accepts_nil (item : Option Value) : Accepts [] item := rfl

theorem accepts_append {xs ys : Criteria} :
    Accepts (xs ++ ys) item ↔ xs.Accepts item ∧ ys.Accepts item := by
  rw [Accepts, Accepts, Accepts, evaluate_append, verdict_andThen]
  split <;> simp [*]

/-- An operator says the same of all nested criteria: that they are no operand, unless it ignores
its operand. -/
theorem verdict_apply_nested (op : Operator) (xs ys : Criteria) (item : Option Value) :
    (op.apply (.nested xs) item).verdict = (op.apply (.nested ys) item).verdict := by
  cases op <;> rfl

/-- Under one key, nested criteria are accepted together if they are accepted one by one. -/
theorem accepts_nested_append (path : String) (xs ys : Criteria) (item : Option Value) :
    Accepts [(path, .nested (xs ++ ys))] item ↔
      Accepts [(path, .nested xs)] item ∧ Accepts [(path, .nested ys)] item := by
  simp only [Accepts, evaluate_singleton]
  cases hpath : Operator.ofKey? path with
  | some op =>
    simp only [Criterion.evaluateAt_operator hpath]
    rw [verdict_apply_nested op (xs ++ ys) ys, verdict_apply_nested op xs ys, and_self]
  | none =>
    simp only [Criterion.evaluateAt_path hpath, Criterion.evaluate_nested]
    exact accepts_append

/-! ### One step -/

namespace Step

/-- The step overwrites nothing in the criteria: its key is new to them, or it refines nested
criteria by an operator that is new to those. -/
inductive JoinsIn : Step → Criteria → Prop
  /-- The key has no entry yet. -/
  | new {step : Step} {q : Criteria} : step.key ∉ Fields.keys q → JoinsIn step q
  /-- The operator has no entry yet in what stands at the path. -/
  | beside {path : String} {op : Operator} {c : Criterion} {q entries : Criteria} :
      q.lookup path = some (.nested entries) → op.key ∉ Fields.keys entries →
      JoinsIn (refine path op c) q

/-- A step that overwrites nothing adds what it asks for. -/
theorem JoinsIn.accepts_apply {step : Step} (h : step.JoinsIn q) :
    (step.apply q).Accepts item ↔ q.Accepts item ∧ (step.apply []).Accepts item := by
  cases h with
  | new hnew =>
    have hnone : q.lookup step.key = none := Fields.lookup_eq_none hnew
    have hq : step.apply q = q ++ step.apply [] := by
      rw [apply_eq_put, apply_eq_put, hnone, Fields.put_of_not_mem hnew]
      rfl
    rw [hq, accepts_append]
  | @beside path op c q entries hentries hnew =>
    obtain ⟨before, after, rfl, hput⟩ := Fields.exists_put_of_lookup hentries
    have happly : (refine path op c).apply (before ++ (path, .nested entries) :: after) =
        before ++ ([(path, .nested (entries ++ [(op.key, c)]))] ++ after) := by
      rw [apply_eq_put, key, hentries, hput, result, Fields.put_of_not_mem hnew]
      rfl
    have hbefore : before ++ (path, Criterion.nested entries) :: after =
        before ++ ([(path, .nested entries)] ++ after) := rfl
    have hempty : (refine path op c).apply [] = [(path, .nested [(op.key, c)])] := rfl
    rw [happly, hbefore, hempty, accepts_append, accepts_append, accepts_append, accepts_append,
      accepts_nested_append]
    tauto

/-! ### Steps that leave each other's work alone -/

/-- The steps do not overwrite one another: they write different keys, or they refine by different
operators. -/
def Apart : Step → Step → Prop
  | refine path op _, refine path' op' _ => (path, op) ≠ (path', op')
  | step, step' => step.key ≠ step'.key

instance : DecidableRel Apart
  | refine path op _, refine path' op' _ =>
    inferInstanceAs (Decidable ((path, op) ≠ (path', op')))
  | refine path _ _, field path' _ => inferInstanceAs (Decidable (path ≠ path'))
  | refine path _ _, operator op' _ => inferInstanceAs (Decidable (path ≠ op'.key))
  | field path _, step' => inferInstanceAs (Decidable (path ≠ step'.key))
  | operator op _, step' => inferInstanceAs (Decidable (op.key ≠ step'.key))

theorem Apart.symm {step step' : Step} (h : step.Apart step') : step'.Apart step := by
  cases step <;> cases step' <;> exact Ne.symm h

/-- Steps that leave each other's work alone and write one key both refine it. -/
theorem Apart.refines {step step' : Step} (h : step.Apart step') (hkey : step.key = step'.key) :
    ∃ path op c op' c', step = refine path op c ∧ step' = refine path op' c' ∧ op ≠ op' := by
  cases step with
  | field _ _ | operator _ _ => cases step' <;> exact absurd hkey h
  | refine path op c =>
    cases step' with
    | field _ _ | operator _ _ => exact absurd hkey h
    | refine path' op' c' =>
      obtain rfl : path = path' := hkey
      exact ⟨path, op, c, op', c', rfl, rfl, fun hop => h (hop ▸ rfl)⟩

/-- What a step adds to what is asked at a path. -/
def refinement? (path : String) : Step → Option (String × Criterion)
  | refine path' op c => if path' = path then some (op.key, c) else none
  | field _ _ | operator _ _ => none

theorem refinement?_eq_some_iff {step : Step} {e : String × Criterion} :
    step.refinement? path = some e ↔ ∃ op c, step = refine path op c ∧ e = (op.key, c) := by
  cases step with
  | field _ _ | operator _ _ => simp [refinement?]
  | refine path' op c =>
    rw [refinement?]
    split
    · next hpath =>
      subst hpath
      simp [eq_comm]
    · next hpath => simp [hpath]

end Step

/-! ### Runs of steps -/

/-- What the steps add to what is asked at a path, in order. -/
def refinements (path : String) (steps : List Step) : Criteria :=
  steps.filterMap (Step.refinement? path)

variable {steps : List Step} {step : Step}

theorem mem_refinements {e : String × Criterion} :
    e ∈ refinements path steps ↔ ∃ op c, .refine path op c ∈ steps ∧ e = (op.key, c) := by
  simp only [refinements, List.mem_filterMap, Step.refinement?_eq_some_iff]
  constructor
  · rintro ⟨_, hmem, op, c, rfl, he⟩
    exact ⟨op, c, hmem, he⟩
  · rintro ⟨op, c, hmem, he⟩
    exact ⟨_, hmem, op, c, rfl, he⟩

theorem refinements_concat (path : String) (steps : List Step) (step : Step) :
    refinements path (steps ++ [step]) =
      refinements path steps ++ (step.refinement? path).toList := by
  rw [refinements, List.filterMap_append, List.filterMap_cons, List.filterMap_nil]
  cases step.refinement? path <;> rfl

theorem build_concat (steps : List Step) (step : Step) :
    build (steps ++ [step]) = step.apply (build steps) := by
  rw [build, List.foldl_concat]
  rfl

theorem mem_keys_build {key : String} :
    key ∈ Fields.keys (build steps) ↔ ∃ step ∈ steps, step.key = key := by
  rw [(inOrderOfMention_build steps).keys_eq, List.mem_eraseDups, List.mem_map]

/-- A step apart from others refines a path by an operator that they do not refine it by. -/
theorem key_not_mem_refinements {op : Operator} {c : Criterion}
    (h : ∀ step ∈ steps, step.Apart (.refine path op c)) :
    op.key ∉ Fields.keys (refinements path steps) := by
  intro hmem
  obtain ⟨e, he, hkey⟩ := List.mem_map.mp hmem
  obtain ⟨op', c', hstep, rfl⟩ := mem_refinements.mp he
  have hop : op' = op := by
    have hof := congrArg Operator.ofKey? hkey
    simpa using hof
  exact h _ hstep (hop ▸ rfl)

/-- Under each path that the steps refine stand their refinements. -/
def Grouped (steps : List Step) : Prop :=
  ∀ path op c, .refine path op c ∈ steps →
    (build steps).lookup path = some (.nested (refinements path steps))

/-- A step apart from all steps before overwrites nothing in what they have built. -/
theorem Grouped.joinsIn (hsteps : Grouped steps) (h : ∀ before ∈ steps, before.Apart step) :
    step.JoinsIn (build steps) := by
  by_cases hkey : step.key ∈ Fields.keys (build steps)
  · obtain ⟨before, hmem, heq⟩ := mem_keys_build.mp hkey
    obtain ⟨path, op, c, op', c', rfl, rfl, -⟩ := (h before hmem).refines heq
    exact .beside (hsteps path op c hmem) (key_not_mem_refinements h)
  · exact .new hkey

/-- A refinement apart from all steps before comes behind the others of its path. -/
theorem Grouped.result_refine {op : Operator} {c : Criterion} (hsteps : Grouped steps)
    (h : ∀ before ∈ steps, before.Apart (.refine path op c)) :
    (Step.refine path op c).result ((build steps).lookup path) =
      .nested (refinements path steps ++ [(op.key, c)]) := by
  by_cases hpath : path ∈ Fields.keys (build steps)
  · obtain ⟨before, hmem, hkey⟩ := mem_keys_build.mp hpath
    obtain ⟨_, op', c', _, _, rfl, heq, -⟩ := (h before hmem).refines hkey
    cases heq
    rw [hsteps path op' c' hmem, Step.result, Fields.put_of_not_mem (key_not_mem_refinements h)]
  · have hnone : refinements path steps = [] := by
      refine List.eq_nil_iff_forall_not_mem.mpr fun e he => hpath ?_
      obtain ⟨op', c', hmem, -⟩ := mem_refinements.mp he
      exact mem_keys_build.mpr ⟨_, hmem, rfl⟩
    rw [hnone, Fields.lookup_eq_none hpath]
    rfl

/-- The refinements of a path are still drawn together after one more step. -/
theorem Grouped.concat (hsteps : Grouped steps) (h : ∀ before ∈ steps, before.Apart step) :
    Grouped (steps ++ [step]) := by
  intro path op c hmem
  rw [build_concat, refinements_concat]
  by_cases hkey : step.key = path
  · -- What writes the path is a refinement, for there is another one or it is the one.
    have hrefine : ∃ op' c', step = .refine path op' c' := by
      rcases List.mem_append.mp hmem with hbefore | hself
      · obtain ⟨_, _, _, op', c', heq, hstep, -⟩ := (h _ hbefore).refines hkey.symm
        cases heq
        exact ⟨op', c', hstep⟩
      · exact ⟨op, c, (List.mem_singleton.mp hself).symm⟩
    obtain ⟨op', c', rfl⟩ := hrefine
    have hlookup := (Step.refine path op' c').lookup_apply (build steps)
    rw [Step.key, hsteps.result_refine h] at hlookup
    rw [hlookup, Step.refinement?, if_pos rfl]
    rfl
  · have hbefore : .refine path op c ∈ steps := by
      rcases List.mem_append.mp hmem with hbefore | hself
      · exact hbefore
      · exact absurd (congrArg Step.key (List.mem_singleton.mp hself)).symm hkey
    have hnone : step.refinement? path = none := by
      rw [Option.eq_none_iff_forall_ne_some]
      intro e he
      obtain ⟨op', c', rfl, -⟩ := Step.refinement?_eq_some_iff.mp he
      exact hkey rfl
    rw [hnone, Step.apply_eq_put, Fields.lookup_put_of_ne _ _ (Ne.symm hkey),
      hsteps path op c hbefore, Option.toList_none, List.append_nil]

/-- Under a path that steps refine which leave each other's work alone stand their refinements. -/
theorem lookup_build (h : steps.Pairwise Step.Apart) : Grouped steps := by
  induction steps using List.reverseRecOn with
  | nil => exact fun _ _ _ hmem => absurd hmem List.not_mem_nil
  | append_singleton steps step ih =>
    obtain ⟨hsteps, -, hlast⟩ := List.pairwise_append.mp h
    exact (ih hsteps).concat fun before hmem =>
      hlast before hmem step (List.mem_singleton_self step)

/-- What is built by steps that leave each other's work alone accepts what each of them accepts. -/
theorem accepts_build (h : steps.Pairwise Step.Apart) :
    (build steps).Accepts item ↔ ∀ step ∈ steps, (build [step]).Accepts item := by
  induction steps using List.reverseRecOn with
  | nil => simp [build, accepts_nil]
  | append_singleton steps step ih =>
    obtain ⟨hsteps, -, hlast⟩ := List.pairwise_append.mp h
    have hjoins := (lookup_build hsteps).joinsIn fun before hmem =>
      hlast before hmem step (List.mem_singleton_self step)
    rw [build_concat, hjoins.accepts_apply, ih hsteps, List.forall_mem_append,
      List.forall_mem_singleton]
    rfl

end Criteria

/-- **Steps that leave each other's work alone add up.** -/
theorem building_is_conjunction (steps : List Criteria.Step)
    (h : steps.Pairwise Criteria.Step.Apart) :
    -- An item is accepted if it is accepted by what each step builds alone,
    (∀ item, (Criteria.build steps).Accepts item ↔
      ∀ step ∈ steps, (Criteria.build [step]).Accepts item) ∧
    -- in whatever order the steps come,
    (∀ others, others.Perm steps → ∀ item,
      (Criteria.build others).Accepts item ↔ (Criteria.build steps).Accepts item) ∧
    -- although the refinements of a path are drawn together where its first mention stands.
    (Criteria.build steps).InOrderOfMention (steps.map (·.key)) ∧
    ∀ path op c, .refine path op c ∈ steps → (Criteria.build steps).lookup path =
      some (.nested (Criteria.refinements path steps)) := by
  refine ⟨fun item => Criteria.accepts_build h, fun others hperm item => ?_,
    Criteria.inOrderOfMention_build steps, Criteria.lookup_build h⟩
  have hothers : others.Pairwise Criteria.Step.Apart :=
    (hperm.pairwise_iff Criteria.Step.Apart.symm).mpr h
  rw [Criteria.accepts_build hothers, Criteria.accepts_build h]
  simp only [hperm.mem_iff]

/-- Bounds on the age that are asked for one at a time, and a path that is the name of an operator
and ignores what is asked of it. -/
def boundsInTurn : List Criteria.Step :=
  [.refine "age" .atLeast (.literal (.number (.signed 18))),
   .oneOf "tags" [.literal (.string "w")],
   .refine "$exists" .less (.list []),
   .refine "age" .less (.literal (.number (.signed 65))),
   .refine "$exists" .greater (.list [])]

/-- Backwards, the same steps build criteria that ask for the tags last and accept the same. -/
theorem ann_is_within_bounds :
    boundsInTurn.Pairwise Criteria.Step.Apart ∧
      Fields.keys (Criteria.build boundsInTurn.reverse) = ["$exists", "age", "tags"] ∧
      (Criteria.build boundsInTurn.reverse).Accepts (some ann) := by
  have hapart : boundsInTurn.Pairwise Criteria.Step.Apart := by decide +kernel
  obtain ⟨hsteps, hothers, -⟩ := building_is_conjunction boundsInTurn hapart
  refine ⟨hapart, by decide +kernel, ?_⟩
  rw [hothers _ (List.reverse_perm _), hsteps]
  simp only [boundsInTurn, List.forall_mem_cons, Criteria.Accepts]
  exact ⟨by decide +kernel, by decide +kernel, by decide +kernel, by decide +kernel,
    by decide +kernel, nofun⟩

end RecordSieve
