import RecordSieve.Pattern.Reader
import RecordSieve.Pattern.Regex

/-!
# Patterns

A pattern is a regular expression together with the text it was written as. It accepts a text if
it matches some part of it.
-/

namespace RecordSieve

/-- A regular expression and the text it was written as. -/
structure Pattern where
  /-- The text of the pattern. -/
  source : String
  /-- What the text stands for. -/
  regex : Regex

namespace Pattern

/-- The pattern that a text is written for. -/
def ofString (source : String) : Except PatternError Pattern := do
  return ⟨source, (← readTerm source.toList).toRegex⟩

/-- Does the pattern match some part of a text? -/
def accepts (p : Pattern) (text : String) : Bool := p.regex.search none text.toList

end Pattern

end RecordSieve
