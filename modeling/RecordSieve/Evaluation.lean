import RecordSieve.Criterion.Basic

/-!
# Evaluations

Evaluating a criterion against an item ends in a verdict: yes, no, or an error, for a criterion
may hold an operand that its operator cannot use. On the way operators are dispatched, and every
dispatch is noted, with the item that the operator is applied to. An evaluation is the verdict
together with the dispatches in order.

Evaluations are joined by rules that say when the next one is asked: after a yes only
(`andThen`), after a no only (`orElse`), or after anything but a yes (`unlessYes`). What is not
asked notes no dispatches.
-/

namespace RecordSieve

/-- What an operator expects of its operand. -/
inductive Expected where
  /-- A literal. -/
  | scalar
  /-- A list. -/
  | list
  /-- A list of nested criteria. -/
  | listOfCriteria
  deriving DecidableEq, Repr

/-- The words for what is expected. -/
def Expected.description : Expected → String
  | scalar => "a scalar"
  | list => "an array"
  | listOfCriteria => "an array of criteria"

/-- Why criteria cannot be evaluated. -/
inductive MatchError where
  /-- An operator has an operand of the wrong kind. -/
  | mismatch (op : Operator) (expected : Expected) (actual : CriterionKind)
  /-- There are no alternatives to choose from. -/
  | noAlternatives
  deriving DecidableEq, Repr

/-- The text of an error. -/
def MatchError.message : MatchError → String
  | mismatch op expected actual =>
    "criteria type mismatch: '" ++ op.key ++ "' expects " ++ expected.description ++ ", got " ++
      actual.name
  | noAlternatives => "$or requires nonempty array"

/-- How an evaluation ends. -/
inductive Verdict where
  /-- The item satisfies the criterion. -/
  | yes
  /-- The item does not satisfy the criterion. -/
  | no
  /-- The question could not be decided. -/
  | error (e : MatchError)
  deriving DecidableEq, Repr

namespace Verdict

/-- The verdict on a plain question. -/
def ofBool (b : Bool) : Verdict := if b then yes else no

/-- The opposite verdict; an error stays one. -/
def negated : Verdict → Verdict
  | yes => no
  | no => yes
  | error e => error e

/-- The verdict with errors counted as a no. -/
def lenient : Verdict → Verdict
  | error _ => no
  | v => v

end Verdict

/-- The application of an operator to an item. -/
structure Dispatch where
  /-- The operator. -/
  op : Operator
  /-- The item, if there is one. -/
  item : Option Value
  deriving DecidableEq, Repr

/-- A verdict and the dispatches that led to it, in order. -/
structure Evaluation where
  /-- The verdict. -/
  verdict : Verdict
  /-- The dispatches. -/
  dispatches : List Dispatch
  deriving DecidableEq, Repr

namespace Evaluation

/-- A verdict that needs no dispatch. -/
def of (verdict : Verdict) : Evaluation := ⟨verdict, []⟩

/-- The evaluation with some dispatches in front of its own. -/
def after (dispatches : List Dispatch) (e : Evaluation) : Evaluation :=
  ⟨e.verdict, dispatches ++ e.dispatches⟩

/-- The evaluation with the opposite verdict. -/
def negated (e : Evaluation) : Evaluation := ⟨e.verdict.negated, e.dispatches⟩

/-- The evaluation with an error counted as a no. -/
def lenient (e : Evaluation) : Evaluation := ⟨e.verdict.lenient, e.dispatches⟩

/-- Goes on after a yes; a no or an error is final. -/
@[macro_inline] def andThen (first next : Evaluation) : Evaluation :=
  match first with
  | ⟨.yes, dispatches⟩ => next.after dispatches
  | final => final

/-- Goes on after a no; a yes or an error is final. -/
@[macro_inline] def orElse (first next : Evaluation) : Evaluation :=
  match first with
  | ⟨.no, dispatches⟩ => next.after dispatches
  | final => final

/-- Goes on, with the verdict at hand, after a no or an error; a yes is final. -/
@[inline] def unlessYes (first : Evaluation) (next : Verdict → Evaluation) : Evaluation :=
  match first with
  | ⟨.yes, dispatches⟩ => ⟨.yes, dispatches⟩
  | ⟨verdict, dispatches⟩ => (next verdict).after dispatches

/-- The evaluation of an operator: its dispatches on the item are noted before all others. -/
def ofOperator (op : Operator) (item : Option Value) (e : Evaluation) : Evaluation :=
  e.after (op.chain.map fun op => ⟨op, item⟩)

@[simp] theorem after_nil (e : Evaluation) : after [] e = e := rfl

@[simp] theorem andThen_yes (xs : List Dispatch) (next : Evaluation) :
    andThen ⟨.yes, xs⟩ next = next.after xs := rfl

@[simp] theorem andThen_no (xs : List Dispatch) (next : Evaluation) :
    andThen ⟨.no, xs⟩ next = ⟨.no, xs⟩ := rfl

@[simp] theorem andThen_error (e : MatchError) (xs : List Dispatch) (next : Evaluation) :
    andThen ⟨.error e, xs⟩ next = ⟨.error e, xs⟩ := rfl

@[simp] theorem orElse_no (xs : List Dispatch) (next : Evaluation) :
    orElse ⟨.no, xs⟩ next = next.after xs := rfl

@[simp] theorem orElse_yes (xs : List Dispatch) (next : Evaluation) :
    orElse ⟨.yes, xs⟩ next = ⟨.yes, xs⟩ := rfl

@[simp] theorem orElse_error (e : MatchError) (xs : List Dispatch) (next : Evaluation) :
    orElse ⟨.error e, xs⟩ next = ⟨.error e, xs⟩ := rfl

end Evaluation

end RecordSieve
