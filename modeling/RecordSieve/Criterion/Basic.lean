import RecordSieve.Operator
import RecordSieve.Pattern.Basic
import RecordSieve.Value.Basic

/-!
# Criteria

A criterion says what an item should be like: equal to a scalar, matched by a pattern, a sequence
whose items fit a list of criteria one by one, or something that satisfies nested criteria.
Criteria are criteria by key, in order: under the key of an operator stands its operand, and under
any other key what the item should have at that path.
-/

namespace RecordSieve

/-- What an item should be like. -/
inductive Criterion where
  /-- The item is equal to a scalar. -/
  | literal (s : Scalar)
  /-- The item is a text that a pattern accepts. -/
  | pattern (p : Pattern)
  /-- The item has items that fit some criteria position by position. -/
  | list (cs : List Criterion)
  /-- The item satisfies criteria. -/
  | nested (entries : List (String × Criterion))

/-- Criteria by key: operands of operators, and criteria for what paths lead to. -/
abbrev Criteria := Fields Criterion

/-- The kinds of criteria; literals are told apart by their types. -/
inductive CriterionKind where
  /-- The literal null. -/
  | null
  /-- A literal truth value. -/
  | bool
  /-- A literal number. -/
  | number
  /-- A literal text. -/
  | string
  /-- A pattern. -/
  | pattern
  /-- A list. -/
  | list
  /-- Nested criteria. -/
  | criteria
  deriving DecidableEq, Repr

namespace CriterionKind

/-- The name of a kind. -/
def name : CriterionKind → String
  | null => "null"
  | bool => "bool"
  | number => "number"
  | string => "string"
  | pattern => "pattern"
  | list => "array"
  | criteria => "criteria"

end CriterionKind

namespace Criterion

/-- The kind of a criterion. -/
def kind : Criterion → CriterionKind
  | literal .null => .null
  | literal (.bool _) => .bool
  | literal (.number _) => .number
  | literal (.string _) => .string
  | pattern _ => .pattern
  | list _ => .list
  | nested _ => .criteria

/-- The scalar of a literal. -/
def scalar? : Criterion → Option Scalar
  | literal s => some s
  | _ => none

/-- The criteria of a list. -/
def list? : Criterion → Option (List Criterion)
  | list cs => some cs
  | _ => none

/-- The entries of nested criteria. -/
def criteria? : Criterion → Option Criteria
  | nested entries => some entries
  | _ => none

end Criterion

end RecordSieve
