import RecordSieve.Pattern.Term

/-!
# Pattern expressions

The tree of a pattern as it is written: groups, repetitions with their bounds, alternatives. From
it come the term that is searched for and the depth of nesting, which is limited.
-/

namespace RecordSieve

open Unicode (Ranges)

/-- A pattern as it is written. -/
inductive Expr where
  /-- Nothing: an empty alternative, or a change of flags. -/
  | empty
  /-- An assertion. -/
  | look (a : Look)
  /-- One character of a set; `depth` is how deep brackets are nested in the writing of the set. -/
  | chars (s : Ranges) (r : Repertoire) (depth : Nat)
  /-- A group, which may keep what it matches. -/
  | group (e : Expr) (keeps : Bool)
  /-- A repetition; a lazy one tries few times first. -/
  | repetition (e : Expr) (least : Nat) (most : Option Nat) (lazy : Bool)
  /-- Two or more expressions in a row. -/
  | row (es : List Expr)
  /-- Two or more alternatives. -/
  | choice (es : List Expr)

namespace Expr

/-- Some expressions in a row. -/
def ofRow : List Expr → Expr
  | [] => empty
  | [e] => e
  | es => row es

/-- Some alternatives. -/
def ofChoice : List Expr → Expr
  | [e] => e
  | es => choice es

mutual

/-- How deep groups, repetitions, rows, alternatives and brackets are nested. -/
def depth : Expr → Nat
  | empty => 0
  | look _ => 0
  | chars _ _ depth => depth
  | group e _ => e.depth + 1
  | repetition e _ _ _ => e.depth + 1
  | row es => deepest es + 1
  | choice es => deepest es + 1

/-- The greatest depth in a list. -/
def deepest : List Expr → Nat
  | [] => 0
  | e :: es => max e.depth (deepest es)

end

mutual

/-- The term that an expression stands for. -/
def toTerm : Expr → Term
  | empty => .empty
  | look a => .look a
  | chars s r _ => .ofSet s r
  | group e keeps => if keeps then .capture e.toTerm else e.toTerm
  | repetition e least most lazy => e.toTerm.repeated least most lazy
  | row es => .ofRow (toTerms es)
  | choice es => .ofChoice (toTerms es)

/-- The terms of a list of expressions. -/
def toTerms : List Expr → List Term
  | [] => []
  | e :: es => e.toTerm :: toTerms es

end

end Expr

end RecordSieve
