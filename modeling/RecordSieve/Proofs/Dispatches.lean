import RecordSieve.Proofs.Criterion
import RecordSieve.Proofs.Matching

/-!
# Dispatches come in chains

Where an operator is applied, its dispatches are noted first, all of its chain: the operator itself
and, for the negated membership, the plain one that it negates. What the operator asks for then
notes its own. So the dispatches of an evaluation, however deep it goes and wherever it leaves
early, are those of some applications of operators, one chain after the other. Nothing ever comes
between the members of a chain.
-/

namespace RecordSieve

/-! ### Chains -/

/-- The dispatches that are noted where an operator is applied. -/
def Dispatch.chain (d : Dispatch) : List Dispatch := d.op.chain.map fun op => ⟨op, d.item⟩

/-- The dispatches are those of operators applied one after the other. -/
def Chained (ds : List Dispatch) : Prop := ∃ applied : List Dispatch, ds = applied.flatMap (·.chain)

variable {ds es : List Dispatch}

theorem chained_nil : Chained [] := ⟨[], rfl⟩

theorem chained_chain (d : Dispatch) : Chained d.chain := ⟨[d], by simp⟩

theorem Chained.append (hd : Chained ds) (he : Chained es) : Chained (ds ++ es) := by
  obtain ⟨first, rfl⟩ := hd
  obtain ⟨second, rfl⟩ := he
  exact ⟨first ++ second, List.flatMap_append.symm⟩

theorem chained_flatMap {α : Type} {xs : List α} {f : α → List Dispatch}
    (h : ∀ x ∈ xs, Chained (f x)) : Chained (xs.flatMap f) := by
  induction xs with
  | nil => exact chained_nil
  | cons x xs ih =>
    obtain ⟨hx, hxs⟩ := List.forall_mem_cons.mp h
    exact hx.append (ih hxs)

/-- The negated membership is followed by the plain one on the same item. -/
theorem Chained.oneOf_after_noneOf (h : Chained ds) {i : Nat} {item : Option Value}
    (hi : ds[i]? = some ⟨.noneOf, item⟩) : ds[i + 1]? = some ⟨.oneOf, item⟩ := by
  obtain ⟨applied, rfl⟩ := h
  induction applied generalizing i with
  | nil => cases hi
  | cons d applied ih =>
    obtain ⟨op, x⟩ := d
    rw [List.flatMap_cons, Dispatch.chain] at hi ⊢
    cases op with
    | noneOf =>
      match i, hi with
      | 0, hi => cases hi; rfl
      | 1, hi => cases hi
      | i + 2, hi => exact ih hi
    | greater | atLeast | less | atMost | unequal | present | oneOf | allOf | either =>
      match i, hi with
      | 0, hi => cases hi
      | i + 1, hi => exact ih hi

/-! ### Evaluations -/

namespace Evaluation

/-- The dispatches of the evaluation come in chains. -/
def InChains (e : Evaluation) : Prop := Chained e.dispatches

variable {e f : Evaluation}

theorem inChains_of (v : Verdict) : (of v).InChains := chained_nil

theorem InChains.after (he : e.InChains) (hd : Chained ds) : (e.after ds).InChains := hd.append he

theorem InChains.negated (he : e.InChains) : e.negated.InChains := he

theorem InChains.lenient (he : e.InChains) : e.lenient.InChains := he

theorem InChains.ofOperator (he : e.InChains) (op : Operator) (item : Option Value) :
    (ofOperator op item e).InChains :=
  he.after (chained_chain ⟨op, item⟩)

theorem InChains.andThen (he : e.InChains) (hf : f.InChains) : (e.andThen f).InChains := by
  obtain ⟨v, ds⟩ := e
  cases v with
  | yes => exact hf.after he
  | no | error _ => exact he

theorem InChains.orElse (he : e.InChains) (hf : f.InChains) : (e.orElse f).InChains := by
  obtain ⟨v, ds⟩ := e
  cases v with
  | no => exact hf.after he
  | yes | error _ => exact he

theorem InChains.unlessYes {next : Verdict → Evaluation} (he : e.InChains)
    (hnext : ∀ v, (next v).InChains) : (e.unlessYes next).InChains := by
  obtain ⟨v, ds⟩ := e
  cases v with
  | yes => exact he
  | no | error _ => exact (hnext _).after he

theorem inChains_all {α : Type} {g : α → Evaluation} {xs : List α}
    (h : ∀ x ∈ xs, (g x).InChains) : (all (xs.map g)).InChains := by
  induction xs with
  | nil => exact inChains_of .yes
  | cons x xs ih =>
    obtain ⟨hx, hxs⟩ := List.forall_mem_cons.mp h
    exact hx.andThen (ih hxs)

theorem inChains_any {α : Type} {g : α → Evaluation} {xs : List α}
    (h : ∀ x ∈ xs, (g x).InChains) : (any (xs.map g)).InChains := by
  induction xs with
  | nil => exact inChains_of .no
  | cons x xs ih =>
    obtain ⟨hx, hxs⟩ := List.forall_mem_cons.mp h
    exact hx.orElse (ih hxs)

end Evaluation

open Evaluation

/-! ### Criteria -/

/-- On every item, the dispatches of the evaluation of the criterion come in chains. -/
def Criterion.InChains (c : Criterion) : Prop := ∀ item, (c.evaluate item).InChains

theorem Criterion.inChains_list {cs : List Criterion} (h : ∀ c ∈ cs, c.InChains) :
    (Criterion.list cs).InChains := by
  intro item
  rw [evaluate_list, evaluateEach_eq_all]
  exact inChains_all fun x hx => h x.1 (List.fst_mem_of_mem_zipIdx hx) _

theorem Criterion.InChains.found {c : Criterion} (h : c.InChains) (item : Option Value) :
    (c.found item).InChains := by
  rw [found_eq_any]
  exact (h item).orElse (inChains_any fun v _ => h (some v))

theorem Criterion.inChains_someSatisfied {cs : List Criterion} (h : ∀ c ∈ cs, c.InChains)
    (item : Option Value) (last : Verdict) : (someSatisfied cs item last).InChains := by
  induction cs generalizing last with
  | nil => exact inChains_of last
  | cons c cs ih =>
    obtain ⟨hc, hcs⟩ := List.forall_mem_cons.mp h
    cases c with
    | nested entries => exact (hc item).unlessYes fun last => ih hcs last
    | literal _ | pattern _ | list _ => exact inChains_of _

/-- The chain of an operator comes first, and then what it asks for. -/
theorem Operator.inChains_apply {op : Operator} {operand : Criterion}
    (h : ∀ cs, operand = .list cs → ∀ c ∈ cs, c.InChains) (item : Option Value) :
    (op.apply operand item).InChains := by
  cases operand with
  | literal _ | pattern _ | nested _ => cases op <;> exact (inChains_of _).ofOperator _ item
  | list cs =>
    have hsome : (Criterion.someFound cs item).InChains := by
      rw [Criterion.someFound_eq_any]
      exact inChains_any fun c hc => ((h cs rfl c hc).found item).lenient
    have hevery : (Criterion.everyFound cs item).InChains := by
      rw [Criterion.everyFound_eq_all]
      exact inChains_all fun c hc => (h cs rfl c hc).found item
    cases op with
    | oneOf => exact hsome.ofOperator _ item
    | noneOf => exact hsome.negated.ofOperator _ item
    | allOf => exact hevery.ofOperator _ item
    | either => exact (Criterion.inChains_someSatisfied (h cs rfl) item _).ofOperator _ item
    | greater | atLeast | less | atMost | unequal | present =>
      exact (inChains_of _).ofOperator _ item

/-- Its own dispatch stands in front. -/
theorem Operator.exists_dispatches_apply (op : Operator) (operand : Criterion)
    (item : Option Value) : ∃ rest, (op.apply operand item).dispatches = ⟨op, item⟩ :: rest := by
  cases op <;> cases operand <;> exact ⟨_, rfl⟩

theorem Criterion.inChains_nested {entries : Criteria} (hc : ∀ e ∈ entries, e.2.InChains)
    (hop : ∀ e ∈ entries, ∀ op : Operator, ∀ item, (op.apply e.2 item).InChains) :
    (Criterion.nested entries).InChains := by
  intro item
  rw [evaluate_nested, Criteria.evaluate_eq_all]
  refine inChains_all fun e he => ?_
  cases hkey : Operator.ofKey? e.1 with
  | some op =>
    rw [evaluateAt_operator hkey]
    exact hop e he op item
  | none =>
    rw [evaluateAt_path hkey]
    exact hc e he _

/-- Both readings of a criterion at once: as something asked of an item, and as an operand. -/
theorem Criterion.inChains (c : Criterion) :
    c.InChains ∧ ∀ (op : Operator) (item : Option Value), (op.apply c item).InChains := by
  induction c with
  | literal s => exact ⟨fun _ => inChains_of _, fun op => Operator.inChains_apply (by simp)⟩
  | pattern p => exact ⟨fun _ => inChains_of _, fun op => Operator.inChains_apply (by simp)⟩
  | list cs ih =>
    refine ⟨inChains_list fun c hc => (ih c hc).1, fun op => Operator.inChains_apply ?_⟩
    rintro ds hds
    cases hds
    exact fun c hc => (ih c hc).1
  | nested entries ih =>
    exact ⟨inChains_nested (fun e he => (ih e he).1) fun e he => (ih e he).2,
      fun op => Operator.inChains_apply (by simp)⟩

/-- The dispatches of an evaluation come in chains. -/
theorem Criteria.inChains_evaluate (q : Criteria) (item : Option Value) :
    (q.evaluate item).InChains :=
  (Criterion.nested q).inChains.1 item

end RecordSieve
