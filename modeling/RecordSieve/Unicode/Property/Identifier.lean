import RecordSieve.Unicode.Category.Group
import RecordSieve.Unicode.Property.Contributory
import RecordSieve.Unicode.Property.Punctuation

/-!
# Properties of identifiers

The characters that names in programs may begin with and go on with. Without the characters that
change when a text is normalised these are the properties whose names begin with X.
-/

namespace RecordSieve.Unicode

/-- The characters that are kept out of identifiers. -/
def patternReserved : Ranges := .union patternSyntax patternWhiteSpace

/-- The code points with the property ID_Start. -/
def idStart : Ranges := .diff (.unions [letter, letterNumber, otherIdStart]) patternReserved

/-- The code points with the property ID_Continue. -/
def idContinue : Ranges :=
  .diff
    (.unions [idStart, nonspacingMark, spacingMark, decimalNumber, connectorPunctuation,
      otherIdContinue])
    patternReserved

/-- Characters that normalisation turns into ones that are not in identifiers. -/
def unstableInIdentifier : Ranges :=
  [(0x037A, 0x037A), (0x309B, 0x309C), (0xFC5E, 0xFC63), (0xFDFA, 0xFDFB), (0xFE70, 0xFE70),
   (0xFE72, 0xFE72), (0xFE74, 0xFE74), (0xFE76, 0xFE76), (0xFE78, 0xFE78), (0xFE7A, 0xFE7A),
   (0xFE7C, 0xFE7C), (0xFE7E, 0xFE7E)]

/-- Characters that normalisation turns into ones that identifiers do not begin with. -/
def unstableAtStart : Ranges :=
  [(0x0E33, 0x0E33), (0x0EB3, 0x0EB3), (0xFF9E, 0xFF9F)]

/-- The code points with the property XID_Start. -/
def xidStart : Ranges := .diff idStart (.union unstableInIdentifier unstableAtStart)

/-- The code points with the property XID_Continue. -/
def xidContinue : Ranges := .diff idContinue unstableInIdentifier

end RecordSieve.Unicode
