import RecordSieve.Criterion.Matching
import RecordSieve.Proofs.Evaluation

/-!
# Matching as evaluations in turn

Each function of the evaluator that walks along a list asks one evaluation for each element, in
turn. The equations below say so: the positions of a list, the entries of criteria, the candidates
of the membership operators and the members of an item are all `Evaluation.all` or
`Evaluation.any` of a list. Alternatives are the exception, since the verdict on the last one
stands; their verdict is described by cases at the end.
-/

namespace RecordSieve

open Evaluation

/-- What the entry of a key says of an item: under the name of an operator stands its operand, and
under any other key what is asked of the value at that path. -/
def Criterion.evaluateAt (key : String) (c : Criterion) (item : Option Value) : Evaluation :=
  match Operator.ofKey? key with
  | some op => op.apply c item
  | none => c.evaluate (Path.resolve item key)

theorem Criterion.evaluateAt_operator {key : String} {op : Operator}
    (h : Operator.ofKey? key = some op) (c : Criterion) (item : Option Value) :
    c.evaluateAt key item = op.apply c item := by
  simp only [evaluateAt, h]

theorem Criterion.evaluateAt_path {key : String} (h : Operator.ofKey? key = none) (c : Criterion)
    (item : Option Value) : c.evaluateAt key item = c.evaluate (Path.resolve item key) := by
  simp only [evaluateAt, h]

/-! ### The lists of the evaluator -/

theorem askEach_eq_any (ask : Option Value → Evaluation) (vs : List Value) :
    askEach ask vs = any (vs.map fun v => ask (some v)) := by
  induction vs with
  | nil => rfl
  | cons v vs ih => rw [askEach, ih, List.map_cons, any_cons]

/-- A criterion is looked for in the item itself and then in its members. -/
theorem Criterion.found_eq_any (c : Criterion) (item : Option Value) :
    c.found item =
      (c.evaluate item).orElse (any ((membersOf item).map fun v => c.evaluate (some v))) := by
  rw [found, askWithin, askEach_eq_any]

theorem Criterion.evaluateEach_eq_all (cs : List Criterion) (vs : List Value) :
    evaluateEach cs vs = all (cs.zipIdx.map fun x => x.1.evaluate vs[x.2]?) := by
  induction cs generalizing vs with
  | nil => rfl
  | cons c cs ih =>
    rw [evaluateEach, ih, List.zipIdx_cons', List.map_cons, all_cons, List.map_map,
      List.head?_eq_getElem?]
    congr 3
    funext x
    simp [Function.comp]

theorem Criteria.evaluate_eq_all (entries : Criteria) (item : Option Value) :
    evaluate entries item = all (entries.map fun e => e.2.evaluateAt e.1 item) := by
  induction entries with
  | nil => rfl
  | cons e entries ih =>
    obtain ⟨key, c⟩ := e
    rw [evaluate, ih, List.map_cons, all_cons]
    rfl

/-- Criteria with one entry ask what the entry asks. -/
theorem Criteria.evaluate_singleton (key : String) (c : Criterion) (item : Option Value) :
    evaluate [(key, c)] item = c.evaluateAt key item := by
  rw [evaluate_eq_all, List.map_singleton, all_singleton]

theorem Criteria.evaluate_at {path : String} (hpath : Operator.ofKey? path = none) (c : Criterion)
    (item : Option Value) : evaluate [(path, c)] item = c.evaluate (Path.resolve item path) := by
  rw [evaluate_singleton, Criterion.evaluateAt_path hpath]

theorem Criteria.evaluate_operator (op : Operator) (operand : Criterion) (item : Option Value) :
    evaluate [(op.key, operand)] item = op.apply operand item := by
  rw [evaluate_singleton, Criterion.evaluateAt_operator (Operator.ofKey?_key op)]

theorem Criteria.evaluate_append (xs ys : Criteria) (item : Option Value) :
    evaluate (xs ++ ys) item = (xs.evaluate item).andThen (ys.evaluate item) := by
  rw [evaluate_eq_all, List.map_append, all_append, ← evaluate_eq_all, ← evaluate_eq_all]

theorem Criterion.evaluate_nested (entries : Criteria) (item : Option Value) :
    (Criterion.nested entries).evaluate item = Criteria.evaluate entries item := rfl

theorem Criterion.evaluate_list (cs : List Criterion) (item : Option Value) :
    (Criterion.list cs).evaluate item = evaluateEach cs (membersOf item) := rfl

theorem Criterion.someFound_eq_any (cs : List Criterion) (item : Option Value) :
    someFound cs item = any (cs.map fun c => (c.found item).lenient) := by
  induction cs with
  | nil => rfl
  | cons c cs ih =>
    rw [someFound, ih, List.map_cons, any_cons]
    rfl

theorem Criterion.everyFound_eq_all (cs : List Criterion) (item : Option Value) :
    everyFound cs item = all (cs.map fun c => c.found item) := by
  induction cs with
  | nil => rfl
  | cons c cs ih =>
    rw [everyFound, ih, List.map_cons, all_cons]
    rfl

/-! ### Operators -/

/-- An operand that is no list is not searched. -/
theorem Operator.apply_of_list?_eq_none (op : Operator) {operand : Criterion}
    (h : operand.list? = none) (item : Option Value) :
    op.apply operand item = .ofOperator op item (.of (op.test operand item)) := by
  cases operand with
  | list cs => cases h
  | literal s => cases op <;> rfl
  | pattern p => cases op <;> rfl
  | nested entries => cases op <;> rfl

theorem Operator.verdict_apply_of_list?_eq_none (op : Operator) {operand : Criterion}
    (h : operand.list? = none) (item : Option Value) :
    (op.apply operand item).verdict = op.test operand item := by
  rw [apply_of_list?_eq_none op h]
  rfl

theorem Operator.verdict_apply_list (op : Operator) (cs : List Criterion) (item : Option Value) :
    (op.apply (.list cs) item).verdict =
      match op with
      | .oneOf => (Criterion.someFound cs item).verdict
      | .noneOf => (Criterion.someFound cs item).verdict.negated
      | .allOf => (Criterion.everyFound cs item).verdict
      | .either => (Criterion.someSatisfied cs item (.error .noAlternatives)).verdict
      | op => op.test (.list cs) item := by
  cases op <;> rfl

/-- The operators that ask how an item stands to a bound. -/
def Operator.ordering : List Operator := [greater, atLeast, less, atMost]

/-- They accept a scalar that stands to the bound as they allow. -/
theorem Operator.verdict_of_mem_ordering {op : Operator} (hop : op ∈ ordering) (bound : Scalar)
    (item : Option Value) :
    (op.apply (.literal bound) item).verdict =
      .ofBool (((item.bind Value.scalar?).bind (·.compare bound)).any op.allows) := by
  simp only [ordering, List.mem_cons, List.not_mem_nil, or_false] at hop
  rcases hop with rfl | rfl | rfl | rfl <;> rfl

end RecordSieve
