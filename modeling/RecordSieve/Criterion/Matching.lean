import RecordSieve.Evaluation
import RecordSieve.Value.Path

/-!
# Matching

When does an item satisfy a criterion? An *item* is a value, or none where a path led nowhere.

* A literal or a pattern is asked of the item itself.
* A list is asked position by position: its first criterion of the first member of the item, and
  so on. An item that is no array, or too short an array, has no value at a position.
* Criteria are asked entry by entry: an operator is applied to the item, and any other key is the
  path to what its criterion is asked of. The first entry that is not satisfied decides.

The membership operators look for what *is found* in an item: a criterion is found if the item
itself satisfies it or, where the item is an array, one of its members does.

All of this recurs on the criterion alone; the item only shrinks along with it. Every function
that takes an item gives back an `Evaluation`, so what is evaluated and what is skipped can be
read off the dispatches.
-/

namespace RecordSieve

/-- Is the item a scalar equal to `s`? -/
def isScalar (item : Option Value) (s : Scalar) : Bool :=
  (item.bind Value.scalar?).any (·.strictEq s)

/-- The members of an item; only arrays have any. -/
def membersOf (item : Option Value) : List Value := item.elim [] Value.members

/-- Asks a question of some values in turn, up to the first yes or error. -/
def askEach (ask : Option Value → Evaluation) : List Value → Evaluation
  | [] => .of .no
  | v :: vs => (ask (some v)).orElse (askEach ask vs)

/-- Asks a question of an item and, after a no, of its members in turn. -/
def askWithin (ask : Option Value → Evaluation) (item : Option Value) : Evaluation :=
  (ask item).orElse (askEach ask (membersOf item))

/-- What an operator says of an item, where its operand is not a list that it searches. -/
def Operator.test (op : Operator) (operand : Criterion) (item : Option Value) : Verdict :=
  match op with
  | .greater | .atLeast | .less | .atMost =>
    match operand.scalar? with
    | some bound =>
      .ofBool (((item.bind Value.scalar?).bind (·.compare bound)).any op.allows)
    | none => .error (.mismatch op .scalar operand.kind)
  | .unequal =>
    match operand.scalar? with
    | some s => .ofBool (!isScalar item s)
    | none => .error (.mismatch op .scalar operand.kind)
  | .present => .ofBool item.isSome
  | .oneOf | .noneOf => .error (.mismatch .oneOf .list operand.kind)
  | .allOf | .either => .error (.mismatch op .list operand.kind)

mutual

/-- Does an item satisfy a criterion? -/
def Criterion.evaluate : Criterion → Option Value → Evaluation
  | .literal s, item => .of (.ofBool (isScalar item s))
  | .pattern p, item => .of (.ofBool ((item.bind Value.text?).any p.accepts))
  | .list cs, item => Criterion.evaluateEach cs (membersOf item)
  | .nested entries, item => Criteria.evaluate entries item
termination_by structural c => c

/-- Do values satisfy criteria position by position? The first criterion that is not satisfied
decides. -/
def Criterion.evaluateEach : List Criterion → List Value → Evaluation
  | [], _ => .of .yes
  | c :: cs, vs => (c.evaluate vs.head?).andThen (Criterion.evaluateEach cs vs.tail)
termination_by structural cs => cs

/-- Does an item satisfy all entries of criteria? The first entry that is not satisfied decides. -/
def Criteria.evaluate : Criteria → Option Value → Evaluation
  | [], _ => .of .yes
  | (key, c) :: rest, item =>
    (match Operator.ofKey? key with
      | some op => op.apply c item
      | none => c.evaluate (Path.resolve item key)).andThen (Criteria.evaluate rest item)
termination_by structural entries => entries

/-- What an operator with an operand says of an item. -/
def Operator.apply (op : Operator) (operand : Criterion) (item : Option Value) : Evaluation :=
  .ofOperator op item
    (match op, operand with
      | .oneOf, .list cs => Criterion.someFound cs item
      | .noneOf, .list cs => (Criterion.someFound cs item).negated
      | .allOf, .list cs => Criterion.everyFound cs item
      | .either, .list cs => Criterion.someSatisfied cs item (.error .noAlternatives)
      | op, operand => .of (op.test operand item))
termination_by structural operand

/-- Is one of some criteria found in an item? A criterion that fails with an error is not. -/
def Criterion.someFound : List Criterion → Option Value → Evaluation
  | [], _ => .of .no
  | c :: cs, item =>
    (askWithin c.evaluate item).lenient.orElse (Criterion.someFound cs item)
termination_by structural cs => cs

/-- Is each of some criteria found in an item? The first one that is not decides. -/
def Criterion.everyFound : List Criterion → Option Value → Evaluation
  | [], _ => .of .yes
  | c :: cs, item => (askWithin c.evaluate item).andThen (Criterion.everyFound cs item)
termination_by structural cs => cs

/-- Does an item satisfy one of some alternatives, which must be nested criteria? If none is
satisfied, the verdict on the last one stands; `last` is the verdict so far. -/
def Criterion.someSatisfied : List Criterion → Option Value → (last : Verdict) → Evaluation
  | [], _, last => .of last
  | .nested entries :: cs, item, _ =>
    (Criteria.evaluate entries item).unlessYes fun last => Criterion.someSatisfied cs item last
  | c :: _, _, _ => .of (.error (.mismatch .either .listOfCriteria c.kind))
termination_by structural cs => cs

end

/-- The negated membership is dispatched, and then the plain one, whose verdict is turned round. -/
theorem Operator.apply_noneOf (operand : Criterion) (item : Option Value) :
    noneOf.apply operand item = (oneOf.apply operand item).negated.after [⟨.noneOf, item⟩] := by
  cases operand <;> rfl

/-- Is a criterion found in an item: does the item satisfy it, or one of its members? -/
def Criterion.found (c : Criterion) (item : Option Value) : Evaluation := askWithin c.evaluate item

end RecordSieve
