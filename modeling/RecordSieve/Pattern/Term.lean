import RecordSieve.Pattern.Look

/-!
# Terms

A term is a pattern in the form in which it is searched for: groups that only hold things together
are gone, rows in rows and alternatives in alternatives are one list, characters in a row are one
literal, and what stands for one character is a set. The functions `ofSet`, `ofRow`, `repeated`
and `ofChoice` build terms and keep this form.

The form decides how large an automaton for the pattern becomes, and with it which patterns are
accepted at all; so it is fixed in detail, down to the part that alternatives share at their front.
-/

namespace RecordSieve

open Unicode (Ranges)

/-- A pattern in simplified form. -/
inductive Term where
  /-- Nothing. -/
  | empty
  /-- An assertion. -/
  | look (a : Look)
  /-- One or more characters in a row. -/
  | literal (text : List Char)
  /-- One character of a set, which has two members or more, or none. -/
  | set (s : Ranges) (r : Repertoire)
  /-- A group that keeps what it matches. -/
  | capture (t : Term)
  /-- A repetition; a lazy one tries few times first. -/
  | repetition (t : Term) (least : Nat) (most : Option Nat) (lazy : Bool)
  /-- Two or more terms in a row. -/
  | row (ts : List Term)
  /-- Two or more alternatives. -/
  | choice (ts : List Term)

namespace Term

/-! ### Measures -/

mutual

/-- Is the empty text all that the term can match? -/
def onlyEmpty : Term → Bool
  | empty => true
  | look _ => true
  | literal _ => false
  | set _ _ => false
  | capture t => t.onlyEmpty
  | repetition t _ _ _ => t.onlyEmpty
  | row ts => allOnlyEmpty ts
  | choice ts => allOnlyEmpty ts

/-- Is the empty text all that each term of a list can match? -/
def allOnlyEmpty : List Term → Bool
  | [] => true
  | t :: ts => t.onlyEmpty && allOnlyEmpty ts

end

mutual

/-- The number of characters that a match has at least. It is unknown where a set without members
occurs, since nothing can match there. -/
def minLength? : Term → Option Nat
  | empty => some 0
  | look _ => some 0
  | literal text => some text.length
  | set s _ => if s.isEmpty then none else some 1
  | capture t => t.minLength?
  | repetition t least _ _ => t.minLength?.map (· * least)
  | row ts => minLengths? ts |>.map List.sum
  | choice ts => minLengths? ts |>.bind List.min?

/-- The numbers for each term of a list. -/
def minLengths? : List Term → Option (List Nat)
  | [] => some []
  | t :: ts => do return (← t.minLength?) :: (← minLengths? ts)

end

mutual

/-- Is it plain that every match begins where the text begins? -/
def beginsAtStart : Term → Bool
  | look a => a = .textStart
  | capture t => t.beginsAtStart
  | repetition t least _ _ => 0 < least && t.beginsAtStart
  | row ts => rowBeginsAtStart ts
  | choice ts => allBeginAtStart ts
  | _ => false

/-- The same of some terms in a row. -/
def rowBeginsAtStart : List Term → Bool
  | [] => false
  | t :: ts => t.beginsAtStart || (t.onlyEmpty && rowBeginsAtStart ts)

/-- The same of each term of a list. -/
def allBeginAtStart : List Term → Bool
  | [] => true
  | t :: ts => t.beginsAtStart && allBeginAtStart ts

end

mutual

/-- Is it plain that every match ends where the text ends? -/
def endsAtEnd : Term → Bool
  | look a => a = .textEnd
  | capture t => t.endsAtEnd
  | repetition t least _ _ => 0 < least && t.endsAtEnd
  | row ts => rowEndsAtEnd ts
  | choice ts => allEndAtEnd ts
  | _ => false

/-- The same of some terms in a row. -/
def rowEndsAtEnd : List Term → Bool
  | [] => false
  | t :: ts => rowEndsAtEnd ts || (allOnlyEmpty ts && t.endsAtEnd)

/-- The same of each term of a list. -/
def allEndAtEnd : List Term → Bool
  | [] => true
  | t :: ts => t.endsAtEnd && allEndAtEnd ts

end

/-! ### Sets, rows and repetitions -/

/-- The term that matches nothing at all. -/
def never : Term := set [] .ascii

/-- One character of a set. -/
def ofSet (s : Ranges) (r : Repertoire) : Term :=
  match s with
  | [] => never
  | [(first, last)] => if first = last then literal [Char.ofNat first] else set s r
  | s => set s r

/-- The terms of a row. -/
def rowItems : Term → List Term
  | empty => []
  | row ts => ts
  | t => [t]

/-- Puts a term in front of a row, a literal together with the literal behind it. -/
def joinItem : Term → List Term → List Term
  | literal text, literal text' :: ts => literal (text ++ text') :: ts
  | t, ts => t :: ts

/-- Some terms in a row. -/
def ofRow (ts : List Term) : Term :=
  match (ts.flatMap rowItems).foldr joinItem [] with
  | [] => empty
  | [t] => t
  | ts => row ts

/-- A repetition. Where more repetitions of nothing match no more, one is enough. -/
def repeated (t : Term) (least : Nat) (most : Option Nat) (lazy : Bool) : Term :=
  let (least, most) :=
    if t.onlyEmpty then (min least 1, some (most.elim 1 (min · 1))) else (least, most)
  if most = some 0 then empty
  else if least = 1 && most = some 1 then t
  else repetition t least most lazy

/-! ### Alternatives -/

mutual

/-- Are two terms of one form? Each group that keeps what it matches is one of its own. -/
def same : Term → Term → Bool
  | empty, empty => true
  | look a, look b => a = b
  | literal text, literal text' => text = text'
  | set s r, set s' r' => s = s' && r = r'
  | repetition t least most lazy, repetition t' least' most' lazy' =>
    t.same t' && least = least' && most = most' && lazy = lazy'
  | row ts, row ts' => allSame ts ts'
  | choice ts, choice ts' => allSame ts ts'
  | _, _ => false

/-- Are the terms of two lists of one form, each with its counterpart? -/
def allSame : List Term → List Term → Bool
  | [], [] => true
  | t :: ts, t' :: ts' => t.same t' && allSame ts ts'
  | _, _ => false

end

/-- How many terms at the front of two lists are of one form. -/
def sharedLength : List Term → List Term → Nat
  | t :: ts, t' :: ts' => if t.same t' then sharedLength ts ts' + 1 else 0
  | _, _ => 0

/-- The alternatives of a choice. -/
def choiceItems : Term → List Term
  | choice ts => ts
  | t => [t]

/-- The terms in a row, if the term is a row. -/
def rowTerms? : Term → Option (List Term)
  | row ts => some ts
  | _ => none

/-- The character that a term stands for, if it is a literal of one character. -/
def char? : Term → Option Char
  | literal [c] => some c
  | _ => none

/-- The set that a term stands for, if it is one. -/
def set? : Term → Option Ranges
  | set s _ => some s
  | _ => none

/-- The alternatives as one set, if all are characters or all are sets. -/
def asSet? (ts : List Term) : Option Ranges :=
  ((ts.mapM char?).map fun cs => .unions (cs.map fun c => .single c.toNat)) <|>
    ((ts.mapM set?).map .unions)

/-- Alternatives that have nothing in common at their front. -/
def ofBranches (ts : List Term) : Term :=
  match ts.flatMap choiceItems with
  | [] => never
  | [t] => t
  | ts =>
    match asSet? ts with
    | some s => ofSet s .unicode
    | none => choice ts

/-- What some rows have in common at their front, and their remainders; unless it is nothing. -/
def commonFront? (rows : List (List Term)) : Option (List Term × List (List Term)) :=
  match rows with
  | [] => none
  | first :: others =>
    let shared := others.foldl (fun n ts => min n (sharedLength first ts)) first.length
    if shared = 0 then none else some (first.take shared, rows.map (·.drop shared))

/-- Some alternatives. If all are rows, what they have in common at their front stands before the
choice. -/
def ofChoice (ts : List Term) : Term :=
  match ofBranches ts with
  | choice ts =>
    match (ts.mapM rowTerms?).bind commonFront? with
    | some (front, rests) => ofRow (front ++ [ofBranches (rests.map ofRow)])
    | none => choice ts
  | t => t

end Term

end RecordSieve
