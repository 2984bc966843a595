import RecordSieve.Proofs.Logging
import RecordSieve.Proofs.Shape

/-!
# Where errors come from

An operator that cannot use its operand raises an error, and so may what stands inside lists and
nested criteria. Which errors a criterion can raise is written in the criterion, whatever the item
it is asked of: `Criterion.Raises` collects them, and `Operator.Rejects` those that an operator
raises about its own operand. Candidates to be found among others raise nothing, since an error
there counts as a no, and of several alternatives only the last can pass on an error of its own,
since the verdict on a later one replaces it. The negated membership asks the plain one, under
whose name it complains.

**`errors_are_raised`** says that there are no other errors: what an evaluation fails with, and
what a query reports as the cause of its failure, is among the errors that the criteria can raise.
-/

namespace RecordSieve

open Evaluation

/-! ### The errors that criteria can raise -/

/-- The operator cannot use the operand at all, and this is what it complains about. -/
inductive Operator.Rejects : Operator → Criterion → MatchError → Prop
  /-- Comparisons ask for a literal. -/
  | noScalar {op : Operator} {c : Criterion} : op.expects = some .scalar → c.scalar? = none →
      Operator.Rejects op c (.mismatch op .scalar c.kind)
  /-- Membership asks for a list, -/
  | oneOfNoList {c : Criterion} : c.list? = none →
      Operator.Rejects .oneOf c (.mismatch .oneOf .list c.kind)
  /-- and so does its negation, in the name of what it negates. -/
  | noneOfNoList {c : Criterion} : c.list? = none →
      Operator.Rejects .noneOf c (.mismatch .oneOf .list c.kind)
  /-- Membership of all asks for a list. -/
  | allOfNoList {c : Criterion} : c.list? = none →
      Operator.Rejects .allOf c (.mismatch .allOf .list c.kind)
  /-- The choice asks for a list, -/
  | eitherNoList {c : Criterion} : c.list? = none →
      Operator.Rejects .either c (.mismatch .either .list c.kind)
  /-- in which there is something to choose. -/
  | noAlternatives : Operator.Rejects .either (.list []) .noAlternatives

mutual

/-- The criterion can raise the error when it is asked of an item. -/
inductive Criterion.Raises : Criterion → MatchError → Prop
  /-- An element of a list raises it. -/
  | element {cs : List Criterion} {c : Criterion} {e : MatchError} :
      c ∈ cs → Criterion.Raises c e → Criterion.Raises (.list cs) e
  /-- An operator among the entries raises it. -/
  | operator {entries : Criteria} {key : String} {op : Operator} {c : Criterion} {e : MatchError} :
      (key, c) ∈ entries → Operator.ofKey? key = some op → Operator.Raises op c e →
      Criterion.Raises (.nested entries) e
  /-- What is asked of the value at a path raises it. -/
  | path {entries : Criteria} {key : String} {c : Criterion} {e : MatchError} :
      (key, c) ∈ entries → Operator.ofKey? key = none → Criterion.Raises c e →
      Criterion.Raises (.nested entries) e

/-- The operator can raise the error when it is applied with the operand. -/
inductive Operator.Raises : Operator → Criterion → MatchError → Prop
  /-- The operand is rejected. -/
  | rejected {op : Operator} {c : Criterion} {e : MatchError} :
      Operator.Rejects op c e → Operator.Raises op c e
  /-- Something that has to be found raises it. -/
  | required {cs : List Criterion} {c : Criterion} {e : MatchError} :
      c ∈ cs → Criterion.Raises c e → Operator.Raises .allOf (.list cs) e
  /-- Every alternative should be nested criteria. -/
  | noCriteria {cs : List Criterion} {c : Criterion} : c ∈ cs → c.criteria? = none →
      Operator.Raises .either (.list cs) (.mismatch .either .listOfCriteria c.kind)
  /-- The last alternative raises it. -/
  | lastAlternative {cs : List Criterion} {entries : Criteria} {e : MatchError} :
      cs.getLast? = some (.nested entries) → Criterion.Raises (.nested entries) e →
      Operator.Raises .either (.list cs) e

end

/-! ### Operands that are rejected -/

/-- A comparison with a literal is a plain question. -/
theorem Operator.test_eq_ofBool {op : Operator} {operand : Criterion} {s : Scalar}
    (hop : op.expects = some .scalar) (hs : operand.scalar? = some s) (item : Option Value) :
    ∃ b, op.test operand item = .ofBool b := by
  cases op with
  | greater | atLeast | less | atMost | unequal =>
    simp only [test, hs]
    exact ⟨_, rfl⟩
  | present | oneOf | noneOf | allOf | either => cases hop

/-- A comparison with anything else complains in its own name. -/
theorem Operator.test_eq_error {op : Operator} {operand : Criterion}
    (hop : op.expects = some .scalar) (hs : operand.scalar? = none) (item : Option Value) :
    op.test operand item = .error (.mismatch op .scalar operand.kind) := by
  cases op with
  | greater | atLeast | less | atMost | unequal => simp only [test, hs]
  | present | oneOf | noneOf | allOf | either => cases hop

/-- An operand that is rejected is rejected on every item. -/
theorem Operator.Rejects.verdict_apply {op : Operator} {operand : Criterion} {e : MatchError}
    (h : op.Rejects operand e) (item : Option Value) :
    (op.apply operand item).verdict = .error e := by
  cases h with
  | noScalar hop hs =>
    have htest : (op.apply operand item).verdict = op.test operand item := by
      cases operand with
      | list cs => cases op <;> first | rfl | cases hop
      | literal _ | pattern _ | nested _ => exact verdict_apply_of_list?_eq_none op rfl item
    rw [htest, test_eq_error hop hs]
  | oneOfNoList hl | noneOfNoList hl | allOfNoList hl | eitherNoList hl =>
    rw [verdict_apply_of_list?_eq_none _ hl]
    rfl
  | noAlternatives => rfl

/-- Where a comparison fails, it rejects its operand. -/
theorem Operator.rejects_of_test_scalar {op : Operator} {operand : Criterion} {item : Option Value}
    {e : MatchError} (hop : op.expects = some .scalar) (h : op.test operand item = .error e) :
    op.Rejects operand e := by
  cases hs : operand.scalar? with
  | some s =>
    obtain ⟨b, hb⟩ := test_eq_ofBool hop hs item
    rw [hb] at h
    cases b <;> cases h
  | none =>
    rw [test_eq_error hop hs] at h
    cases h
    exact .noScalar hop hs

/-- Where an operator fails on an operand that is no list, it rejects it. -/
theorem Operator.rejects_of_test {op : Operator} {operand : Criterion} {item : Option Value}
    {e : MatchError} (hlist : operand.list? = none) (h : op.test operand item = .error e) :
    op.Rejects operand e := by
  cases op with
  | greater | atLeast | less | atMost | unequal => exact rejects_of_test_scalar rfl h
  | present => cases item <;> cases h
  | oneOf =>
    cases h
    exact .oneOfNoList hlist
  | noneOf =>
    cases h
    exact .noneOfNoList hlist
  | allOf =>
    cases h
    exact .allOfNoList hlist
  | either =>
    cases h
    exact .eitherNoList hlist

/-! ### No other errors -/

/-- On every item, the evaluation fails with errors of the criterion only. -/
def Criterion.Traced (c : Criterion) : Prop := ∀ item, (c.evaluate item).FailsWith c.Raises

theorem Criterion.traced_list {cs : List Criterion} (h : ∀ c ∈ cs, c.Traced) :
    (Criterion.list cs).Traced := by
  intro item
  rw [evaluate_list, evaluateEach_eq_all]
  refine failsWith_all fun x hx => ?_
  have hmem := List.fst_mem_of_mem_zipIdx hx
  exact (h x.1 hmem _).mono fun err herr => .element hmem herr

theorem Criterion.Traced.found {c : Criterion} (h : c.Traced) (item : Option Value) :
    (c.found item).FailsWith c.Raises := by
  rw [found_eq_any]
  exact (h item).orElse (failsWith_any fun v _ => h (some v))

/-- What stops a choice is an alternative that is no nested criteria; if nothing stops it, the
verdict on the last alternative stands, or the one given beforehand if there is none. -/
theorem Criterion.failsWith_someSatisfied {R : MatchError → Prop} {cs : List Criterion}
    {item : Option Value} {last : Verdict} (hnil : cs = [] → ∀ err, last = .error err → R err)
    (hcriteria : ∀ c ∈ cs, c.criteria? = none → R (.mismatch .either .listOfCriteria c.kind))
    (hlast : ∀ entries, cs.getLast? = some (.nested entries) →
      (Criteria.evaluate entries item).FailsWith R) :
    (someSatisfied cs item last).FailsWith R := by
  induction cs generalizing last with
  | nil => exact hnil rfl
  | cons c cs ih =>
    cases c with
    | nested entries =>
      intro err herr
      rw [someSatisfied, verdict_unlessYes] at herr
      split at herr
      · cases herr
      · refine ih ?_ (fun d hd => hcriteria d (List.mem_cons_of_mem _ hd)) ?_ err herr
        · rintro rfl
          exact hlast entries rfl
        · intro others hothers
          refine hlast others ?_
          rw [List.getLast?_cons, hothers]
          rfl
    | literal _ | pattern _ | list _ =>
      intro err herr
      cases herr
      exact hcriteria _ List.mem_cons_self rfl

/-- What an operator fails with, it raises, if the criteria in its operand are traced. -/
theorem Operator.failsWith_apply {op : Operator} {operand : Criterion}
    (h : ∀ cs, operand = .list cs → ∀ c ∈ cs, c.Traced) (item : Option Value) :
    (op.apply operand item).FailsWith (op.Raises operand) := by
  intro e he
  cases hlist : operand.list? with
  | none =>
    rw [verdict_apply_of_list?_eq_none op hlist] at he
    exact .rejected (rejects_of_test hlist he)
  | some cs =>
    obtain rfl : operand = .list cs := by
      cases operand <;> cases hlist
      rfl
    have hcs := h cs rfl
    have hsome : (Criterion.someFound cs item).FailsWith fun _ => False := by
      rw [Criterion.someFound_eq_any]
      exact failsWith_any fun c _ => failsWith_lenient _
    rw [verdict_apply_list] at he
    cases op with
    | greater | atLeast | less | atMost | unequal =>
      exact .rejected (rejects_of_test_scalar rfl he)
    | present => cases item <;> cases he
    | oneOf => exact (hsome e he).elim
    | noneOf => exact (hsome.negated e he).elim
    | allOf =>
      rw [Criterion.everyFound_eq_all] at he
      exact failsWith_all
        (fun c hc => ((hcs c hc).found item).mono fun err herr => .required hc herr) e he
    | either =>
      refine Criterion.failsWith_someSatisfied ?_ (fun c => .noCriteria)
        (fun entries hlast => ?_) e he
      · rintro rfl err herr
        cases herr
        exact .rejected .noAlternatives
      · exact (hcs _ (List.mem_of_getLast? hlast) item).mono fun err herr =>
          .lastAlternative hlast herr

theorem Criterion.traced_nested {entries : Criteria} (hc : ∀ e ∈ entries, e.2.Traced)
    (hop : ∀ e ∈ entries, ∀ (op : Operator) item, (op.apply e.2 item).FailsWith (op.Raises e.2)) :
    (Criterion.nested entries).Traced := by
  intro item
  rw [evaluate_nested, Criteria.evaluate_eq_all]
  refine failsWith_all fun e he => ?_
  cases hkey : Operator.ofKey? e.1 with
  | some op =>
    rw [evaluateAt_operator hkey]
    exact (hop e he op item).mono fun err herr => .operator he hkey herr
  | none =>
    rw [evaluateAt_path hkey]
    exact (hc e he _).mono fun err herr => .path he hkey herr

/-- Both readings of a criterion at once: as something asked of an item, and as an operand. -/
theorem Criterion.traced (c : Criterion) :
    c.Traced ∧ ∀ (op : Operator) item, (op.apply c item).FailsWith (op.Raises c) := by
  induction c with
  | literal s =>
    exact ⟨fun item => failsWith_ofBool _, fun op => Operator.failsWith_apply (by simp)⟩
  | pattern p =>
    exact ⟨fun item => failsWith_ofBool _, fun op => Operator.failsWith_apply (by simp)⟩
  | list cs ih =>
    refine ⟨traced_list fun c hc => (ih c hc).1, fun op => Operator.failsWith_apply fun ds hds => ?_⟩
    cases hds
    exact fun c hc => (ih c hc).1
  | nested entries ih =>
    exact ⟨traced_nested (fun e he => (ih e he).1) fun e he => (ih e he).2,
      fun op => Operator.failsWith_apply (by simp)⟩

/-! ### The errors of queries -/

namespace Collection

variable {c : Collection} {q : Criteria} {e : ScanError}

theorem raises_of_sieve_error (h : (c.sieve q).result = .error e) :
    (Criterion.nested q).Raises e.cause := by
  obtain ⟨r, -, hr⟩ := result_sieve_eq_error_iff.mp h
  exact (Criterion.nested q).traced.1 (some r) e.cause hr

theorem raises_of_position_error (h : (c.position q).result = .error e) :
    (Criterion.nested q).Raises e.cause :=
  raises_of_sieve_error (result_sieve_of_position_error h)

/-- The error that is logged where nothing is found is the one that stopped the sieving. -/
theorem result_sieve_of_findFailed (h : .findFailed e ∈ (c.find q).log) :
    (c.sieve q).result = .error e := by
  have hsieve : LogEntry.findFailed e ∉ (c.sieve q).log := by
    intro hmem
    rcases mem_log_sieve hmem with ⟨d, hd⟩ | ⟨found, hd⟩ <;> cases hd
  rw [log_find, List.mem_append] at h
  have hcomplaint := h.resolve_left hsieve
  cases hs : (c.sieve q).result with
  | ok hits =>
    rw [hs] at hcomplaint
    cases hcomplaint
  | error e' =>
    rw [hs] at hcomplaint
    cases List.mem_singleton.mp hcomplaint
    rfl

end Collection

/-- An error that comes out of a result mapped to another was there before. -/
theorem eq_error_of_map {ε α β : Type} {f : α → β} {x : Except ε α} {e : ε}
    (h : x.map f = .error e) : x = .error e := by
  cases x with
  | error e' => exact congrArg _ (Except.error.inj h)
  | ok a => cases h

/-- **Every error is one that the criteria can raise**: of a criterion on an item, of an operator,
and of each query on a collection. An operand that is rejected is so whatever the item. -/
theorem errors_are_raised :
    (∀ (op : Operator) operand e, op.Rejects operand e →
      ∀ item, (op.apply operand item).verdict = .error e) ∧
    (∀ (c : Criterion) item e, (c.evaluate item).verdict = .error e → c.Raises e) ∧
    (∀ (op : Operator) operand item e,
      (op.apply operand item).verdict = .error e → op.Raises operand e) ∧
    (∀ (q : Criteria) item e,
      (q.evaluate item).verdict = .error e → (Criterion.nested q).Raises e) ∧
    ∀ (c : Collection) (q : Criteria),
      (∀ e, (c.sieve q).result = .error e → (Criterion.nested q).Raises e.cause) ∧
      (∀ e, (c.count q).result = .error e → (Criterion.nested q).Raises e.cause) ∧
      (∀ e, (c.position q).result = .error e → (Criterion.nested q).Raises e.cause) ∧
      (∀ e, (c.first q).result = .error e → (Criterion.nested q).Raises e.cause) ∧
      (∀ e, (c.any q).result = .error e → (Criterion.nested q).Raises e.cause) ∧
      -- What cannot be found is reported in the log only.
      (∀ e, .findFailed e ∈ (c.find q).log → (Criterion.nested q).Raises e.cause) ∧
      ((c.find q).result = none → ∃ e, (Criterion.nested q).Raises e) := by
  refine ⟨fun op operand e h => h.verdict_apply, fun c => c.traced.1, fun op operand => operand.traced.2 op,
    fun q => (Criterion.nested q).traced.1, fun c q => ⟨?sieve, ?count, ?position, ?first, ?any,
      ?logged, ?found⟩⟩
  case sieve => exact fun e => Collection.raises_of_sieve_error
  case count => exact fun e h => Collection.raises_of_sieve_error (eq_error_of_map h)
  case position => exact fun e => Collection.raises_of_position_error
  case first => exact fun e h => Collection.raises_of_position_error (eq_error_of_map h)
  case any => exact fun e h => Collection.raises_of_position_error (eq_error_of_map h)
  case logged =>
    exact fun e h => Collection.raises_of_sieve_error (Collection.result_sieve_of_findFailed h)
  case found =>
    intro h
    rw [Collection.find] at h
    cases hs : (c.sieve q).result with
    | ok hits =>
      simp only [hs] at h
      cases h
    | error e => exact ⟨e.cause, Collection.raises_of_sieve_error hs⟩

end RecordSieve
