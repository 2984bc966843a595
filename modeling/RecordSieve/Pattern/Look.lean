import RecordSieve.Pattern.Repertoire

/-!
# Looking around

Assertions match no character: they hold at a place between two characters of a text, or they do
not. All that they can see of the place is the character before it and the one after it.
-/

namespace RecordSieve

/-- A place in a text, seen by its neighbours; a neighbour is missing at either end. -/
structure Place where
  /-- The character before the place. -/
  before : Option Char
  /-- The character after the place. -/
  after : Option Char

/-- A condition on a place in a text. What words are made of depends on the repertoire. -/
inductive Look where
  /-- The text begins here. -/
  | textStart
  /-- The text ends here. -/
  | textEnd
  /-- A line begins here; lines end with a line feed. -/
  | lineStart
  /-- A line ends here. -/
  | lineEnd
  /-- A line begins here; lines end with a line feed, a carriage return, or both as one. -/
  | lineStartReturn
  /-- A line ends here, by the same rule. -/
  | lineEndReturn
  /-- A word begins or ends here. -/
  | wordBoundary (r : Repertoire)
  /-- No word begins or ends here. -/
  | notWordBoundary (r : Repertoire)
  /-- A word begins here. -/
  | wordStart (r : Repertoire)
  /-- A word ends here. -/
  | wordEnd (r : Repertoire)
  /-- No word character stands before. -/
  | wordStartHalf (r : Repertoire)
  /-- No word character stands after. -/
  | wordEndHalf (r : Repertoire)
  deriving DecidableEq, Repr

namespace Place

/-- Does a word character stand before the place? -/
def wordBefore (p : Place) (r : Repertoire) : Bool := p.before.any fun c => r.word.contains c.toNat

/-- Does a word character stand after the place? -/
def wordAfter (p : Place) (r : Repertoire) : Bool := p.after.any fun c => r.word.contains c.toNat

end Place

/-- Does an assertion hold at a place? A line does not end between a carriage return and the line
feed that follows it. -/
def Look.holds : Look → Place → Bool
  | textStart, p => p.before.isNone
  | textEnd, p => p.after.isNone
  | lineStart, p => p.before.isNone || p.before == some '\n'
  | lineEnd, p => p.after.isNone || p.after == some '\n'
  | lineStartReturn, p =>
    p.before.isNone || p.before == some '\n' || (p.before == some '\r' && p.after != some '\n')
  | lineEndReturn, p =>
    p.after.isNone || p.after == some '\r' || (p.after == some '\n' && p.before != some '\r')
  | wordBoundary r, p => p.wordBefore r != p.wordAfter r
  | notWordBoundary r, p => p.wordBefore r == p.wordAfter r
  | wordStart r, p => !p.wordBefore r && p.wordAfter r
  | wordEnd r, p => p.wordBefore r && !p.wordAfter r
  | wordStartHalf r, p => !p.wordBefore r
  | wordEndHalf r, p => !p.wordAfter r

end RecordSieve
