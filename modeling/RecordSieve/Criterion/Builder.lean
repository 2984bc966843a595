import RecordSieve.Criterion.Basic

/-!
# Building criteria

Criteria are built in steps from empty ones. A step sets the entry of a key, or it *refines* what
is asked at a path by one more operator: if nested criteria already stand at the path, the
operator joins them, so that a lower and an upper bound on one path end up side by side. In either
case only the entry of the step's own key changes, and keys stay in the order of their first
mention.
-/

namespace RecordSieve

namespace Criteria

/-- Asks something more of what a path leads to: an operator with an operand. -/
def refine (path : String) (op : Operator) (operand : Criterion) (criteria : Criteria) : Criteria :=
  match criteria.lookup path with
  | some (.nested entries) => criteria.put path (.nested (Fields.put op.key operand entries))
  | _ => criteria.put path (.nested [(op.key, operand)])

/-- A step of building criteria. -/
inductive Step where
  /-- Sets what is asked of what a path leads to. -/
  | field (path : String) (c : Criterion)
  /-- Applies an operator to the item itself. -/
  | operator (op : Operator) (operand : Criterion)
  /-- Applies one more operator to what a path leads to. -/
  | refine (path : String) (op : Operator) (operand : Criterion)

namespace Step

/-- The path leads to something. -/
def present (path : String) : Step := refine path .present (.literal (.bool true))

/-- One of some criteria is found at the path. -/
def oneOf (path : String) (cs : List Criterion) : Step := refine path .oneOf (.list cs)

/-- None of some criteria is found at the path. -/
def noneOf (path : String) (cs : List Criterion) : Step := refine path .noneOf (.list cs)

/-- Each of some criteria is found at the path. -/
def allOf (path : String) (cs : List Criterion) : Step := refine path .allOf (.list cs)

/-- The item satisfies one of some alternatives. -/
def either (alternatives : List Criteria) : Step :=
  operator .either (.list (alternatives.map .nested))

/-- What a path leads to is a text that a pattern accepts. -/
def pattern (path : String) (p : Pattern) : Step := field path (.pattern p)

/-- Carries out a step. -/
def apply (criteria : Criteria) : Step → Criteria
  | field path c => criteria.put path c
  | operator op operand => criteria.put op.key operand
  | refine path op operand => criteria.refine path op operand

end Step

/-- The criteria that some steps build. -/
def build (steps : List Step) : Criteria := steps.foldl Step.apply []

end Criteria

end RecordSieve
