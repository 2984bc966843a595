import RecordSieve.Unicode.Property.Case

/-!
# The property Alphabetic

Letters, letter numbers and the marks that spell like letters.
-/

namespace RecordSieve.Unicode

/-- The code points with the property Alphabetic. -/
def alphabetic : Ranges :=
  .unions [lowercase, uppercase, titlecaseLetter, modifierLetter, otherLetter, letterNumber,
    otherAlphabetic]

end RecordSieve.Unicode
