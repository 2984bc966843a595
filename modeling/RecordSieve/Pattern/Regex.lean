import RecordSieve.Pattern.Term

/-!
# Regular expressions with marks

A regular expression is matched against a text in one pass and without going back. Each character
set of the expression carries a *mark*: it says that the character just read was matched there, so
that the match goes on from behind that set. All matches that are under way, from whatever place
they began, are followed at once, and the work per character is bounded by the size of the
expression.

Assertions make the empty matches depend on the place, so `matchesEmpty` and `reaches` are asked
anew at every place. `Regex.search` begins a match at every place and stops at the first place
where one ends.
-/

namespace RecordSieve

open Unicode (Ranges)

/-- A regular expression, with a mark at each of its character sets. -/
inductive Regex where
  /-- Matches the empty text. -/
  | empty
  /-- Matches the empty text where an assertion holds. -/
  | look (a : Look)
  /-- Matches one character of a set. -/
  | chars (s : Ranges) (marked : Bool)
  /-- Matches the one and then the other. -/
  | seq (r s : Regex)
  /-- Matches the one or the other. -/
  | alt (r s : Regex)
  /-- Matches any number of times. -/
  | star (r : Regex)

namespace Regex

/-- Can the expression match the empty text at this place? -/
def matchesEmpty (place : Place) : Regex → Bool
  | empty => true
  | look a => a.holds place
  | chars _ _ => false
  | seq r s => r.matchesEmpty place && s.matchesEmpty place
  | alt r s => r.matchesEmpty place || s.matchesEmpty place
  | star _ => true

/-- Can a match that is under way end at this place? -/
def reaches (place : Place) : Regex → Bool
  | empty => false
  | look _ => false
  | chars _ marked => marked
  | seq r s => s.reaches place || (r.reaches place && s.matchesEmpty place)
  | alt r s => r.reaches place || s.reaches place
  | star r => r.reaches place

/-- Reads the character after a place: each mark moves on to the sets that can match it. With
`enter` a match also begins at the place. -/
def advance (place : Place) (c : Char) (enter : Bool) : Regex → Regex
  | empty => empty
  | look a => look a
  | chars s _ => chars s (enter && s.contains c.toNat)
  | seq r s =>
    seq (r.advance place c enter)
      (s.advance place c ((enter && r.matchesEmpty place) || r.reaches place))
  | alt r s => alt (r.advance place c enter) (s.advance place c enter)
  | star r => star (r.advance place c (enter || r.reaches place))

/-- Does some part of the text match? `before` is the character in front of the text. -/
def search (r : Regex) (before : Option Char) (text : List Char) : Bool :=
  let place : Place := ⟨before, text.head?⟩
  r.matchesEmpty place || r.reaches place ||
    match text with
    | [] => false
    | c :: rest => search (r.advance place c true) (some c) rest

/-! ### Expressions that repeat -/

/-- The expression `n` times in a row, as a balanced tree. -/
def power (r : Regex) (n : Nat) : Regex :=
  if n = 0 then empty
  else if n = 1 then r
  else
    let half := r.power (n / 2)
    if n % 2 = 0 then seq half half else seq (seq half half) r

/-- The expression at least `least` times and, if there is a bound, at most `most` times. -/
def repeated (r : Regex) (least : Nat) : (most : Option Nat) → Regex
  | none => seq (r.power least) (star r)
  | some most => seq (r.power least) ((alt r empty).power (most - least))

/-- The expression of a text in which each character stands for itself. -/
def text : List Char → Regex
  | [] => empty
  | [c] => chars (.single c.toNat) false
  | c :: cs => seq (chars (.single c.toNat) false) (text cs)

end Regex

namespace Term

mutual

/-- The regular expression that a term stands for. -/
def toRegex : Term → Regex
  | empty => .empty
  | look a => .look a
  | literal text => .text text
  | set s _ => .chars s false
  | capture t => t.toRegex
  | repetition t least most _ => t.toRegex.repeated least most
  | row ts => rowRegex ts
  | choice ts => choiceRegex ts

/-- The regular expression of some terms in a row. -/
def rowRegex : List Term → Regex
  | [] => .empty
  | [t] => t.toRegex
  | t :: ts => .seq t.toRegex (rowRegex ts)

/-- The regular expression of some alternatives. -/
def choiceRegex : List Term → Regex
  | [] => .empty
  | [t] => t.toRegex
  | t :: ts => .alt t.toRegex (choiceRegex ts)

end

end Term

end RecordSieve
