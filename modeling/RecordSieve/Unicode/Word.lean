import RecordSieve.Unicode.Property.Alphabetic
import RecordSieve.Unicode.Property.Writing

/-!
# Word characters

The characters that words are made of: what is alphabetic, marks, decimal digits, the punctuation
that connects parts of words (the low line first of all), and the two invisible characters that
control joining.
-/

namespace RecordSieve.Unicode

/-- The code points that words are made of. -/
def word : Ranges :=
  .unions [alphabetic, mark, decimalNumber, connectorPunctuation, joinControl]

end RecordSieve.Unicode
