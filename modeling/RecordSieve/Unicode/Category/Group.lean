import RecordSieve.Unicode.Category.Letter
import RecordSieve.Unicode.Category.Mark
import RecordSieve.Unicode.Category.Number
import RecordSieve.Unicode.Category.Other
import RecordSieve.Unicode.Category.Punctuation
import RecordSieve.Unicode.Category.Symbol
import RecordSieve.Unicode.Name

/-!
# General categories

Every code point has one general category. The categories form groups, and what belongs to none of
the tables is unassigned.
-/

namespace RecordSieve.Unicode

/-- Letters that have a case. -/
def casedLetter : Ranges := .unions [uppercaseLetter, lowercaseLetter, titlecaseLetter]

/-- Letters. -/
def letter : Ranges := .unions [casedLetter, modifierLetter, otherLetter]

/-- Marks. -/
def mark : Ranges := .unions [nonspacingMark, spacingMark, enclosingMark]

/-- Numbers. -/
def number : Ranges := .unions [decimalNumber, letterNumber, otherNumber]

/-- Punctuation. -/
def punctuation : Ranges :=
  .unions [connectorPunctuation, dashPunctuation, openPunctuation, closePunctuation,
    initialPunctuation, finalPunctuation, otherPunctuation]

/-- Symbols. -/
def symbol : Ranges := .unions [mathSymbol, currencySymbol, modifierSymbol, otherSymbol]

/-- Separators. -/
def separator : Ranges := .unions [spaceSeparator, lineSeparator, paragraphSeparator]

/-- The code points that have no category of their own. -/
def unassigned : Ranges :=
  (Ranges.unions [letter, mark, number, punctuation, symbol, separator, control, format,
    privateUse, surrogate]).compl

/-- The code points that have one. -/
def assigned : Ranges := unassigned.compl

/-- Code points that stand for no character that is seen. -/
def otherCodePoint : Ranges := .unions [control, format, unassigned, privateUse, surrogate]

/-- The general categories and their groups. No character is a surrogate, and these have no name
here. -/
def categories : List NamedSet :=
  [⟨["Letter", "L"], letter⟩, ⟨["Cased_Letter", "LC"], casedLetter⟩,
   ⟨["Uppercase_Letter", "Lu"], uppercaseLetter⟩, ⟨["Lowercase_Letter", "Ll"], lowercaseLetter⟩,
   ⟨["Titlecase_Letter", "Lt"], titlecaseLetter⟩, ⟨["Modifier_Letter", "Lm"], modifierLetter⟩,
   ⟨["Other_Letter", "Lo"], otherLetter⟩, ⟨["Mark", "M", "Combining_Mark"], mark⟩,
   ⟨["Nonspacing_Mark", "Mn"], nonspacingMark⟩, ⟨["Spacing_Mark", "Mc"], spacingMark⟩,
   ⟨["Enclosing_Mark", "Me"], enclosingMark⟩, ⟨["Number", "N"], number⟩,
   ⟨["Decimal_Number", "Nd", "digit"], decimalNumber⟩, ⟨["Letter_Number", "Nl"], letterNumber⟩,
   ⟨["Other_Number", "No"], otherNumber⟩, ⟨["Punctuation", "P", "punct"], punctuation⟩,
   ⟨["Connector_Punctuation", "Pc"], connectorPunctuation⟩,
   ⟨["Dash_Punctuation", "Pd"], dashPunctuation⟩, ⟨["Open_Punctuation", "Ps"], openPunctuation⟩,
   ⟨["Close_Punctuation", "Pe"], closePunctuation⟩,
   ⟨["Initial_Punctuation", "Pi"], initialPunctuation⟩,
   ⟨["Final_Punctuation", "Pf"], finalPunctuation⟩,
   ⟨["Other_Punctuation", "Po"], otherPunctuation⟩, ⟨["Symbol", "S"], symbol⟩,
   ⟨["Math_Symbol", "Sm"], mathSymbol⟩, ⟨["Currency_Symbol", "Sc"], currencySymbol⟩,
   ⟨["Modifier_Symbol", "Sk"], modifierSymbol⟩, ⟨["Other_Symbol", "So"], otherSymbol⟩,
   ⟨["Separator", "Z"], separator⟩, ⟨["Space_Separator", "Zs"], spaceSeparator⟩,
   ⟨["Line_Separator", "Zl"], lineSeparator⟩,
   ⟨["Paragraph_Separator", "Zp"], paragraphSeparator⟩, ⟨["Other", "C"], otherCodePoint⟩,
   ⟨["Control", "Cc", "cntrl"], control⟩, ⟨["Format", "Cf"], format⟩,
   ⟨["Unassigned", "Cn"], unassigned⟩, ⟨["Private_Use", "Co"], privateUse⟩,
   ⟨["Any"], .all⟩, ⟨["Assigned"], assigned⟩, ⟨["ASCII"], [(0x0000, 0x007F)]⟩]

end RecordSieve.Unicode
