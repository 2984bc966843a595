/-!
# Operators

A key of criteria that begins with a dollar sign and stands in the table below is an operator: it
says something of the item itself. Every other key is the path to a part of the item. The names in
the table always mean the operator, so such a key alone does not lead to a field of that name; a
longer path that begins with it does.
-/

namespace RecordSieve

/-- An operator. -/
inductive Operator where
  /-- The item comes after the operand. -/
  | greater
  /-- The item does not come before the operand. -/
  | atLeast
  /-- The item comes before the operand. -/
  | less
  /-- The item does not come after the operand. -/
  | atMost
  /-- The item is not equal to the operand. -/
  | unequal
  /-- There is an item. -/
  | present
  /-- Some element of the operand is found in the item. -/
  | oneOf
  /-- No element of the operand is found in the item. -/
  | noneOf
  /-- Every element of the operand is found in the item. -/
  | allOf
  /-- The item satisfies one of several criteria. -/
  | either
  deriving DecidableEq, Repr

namespace Operator

/-- The table of operators. -/
def all : List Operator :=
  [greater, atLeast, less, atMost, unequal, present, oneOf, noneOf, allOf, either]

/-- The key that stands for an operator. -/
def key : Operator → String
  | greater => "$gt"
  | atLeast => "$gte"
  | less => "$lt"
  | atMost => "$lte"
  | unequal => "$ne"
  | present => "$exists"
  | oneOf => "$in"
  | noneOf => "$nin"
  | allOf => "$all"
  | either => "$or"

/-- The operator that a key stands for. -/
def ofKey? (key : String) : Option Operator := all.find? (·.key == key)

@[simp] theorem ofKey?_key (op : Operator) : ofKey? op.key = some op := by
  cases op <;> rfl

/-- Does the operator accept an item that stands in this order to the operand? Operators that do
not ask for an order accept none. -/
def allows : Operator → Ordering → Bool
  | greater, o => o == .gt
  | atLeast, o => o != .lt
  | less, o => o == .lt
  | atMost, o => o != .gt
  | _, _ => false

/-- The operators that are carried out where an operator is applied: the operator itself and, for
the negated membership, the plain one that it negates (`apply_noneOf`). -/
def chain : Operator → List Operator
  | noneOf => [noneOf, oneOf]
  | op => [op]

end Operator

end RecordSieve
