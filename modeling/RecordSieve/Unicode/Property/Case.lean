import RecordSieve.Unicode.CaseFold
import RecordSieve.Unicode.Category.Group
import RecordSieve.Unicode.Property.Contributory

/-!
# Letter case

What is a small or a capital letter, and what changes when a text is written in small letters, in
capitals, or in such a way that case makes no difference. Nearly all that changes has case variants;
the rest are letters whose other form is more than one letter, or does not lead back to them.
-/

namespace RecordSieve.Unicode

/-- The code points with the property Lowercase. -/
def lowercase : Ranges := .union lowercaseLetter otherLowercase

/-- The code points with the property Uppercase. -/
def uppercase : Ranges := .union uppercaseLetter otherUppercase

/-- The code points with the property Cased. -/
def cased : Ranges := .unions [lowercase, uppercase, titlecaseLetter]

/-- Punctuation within words, which letter case does not stop at. -/
def caseIgnorablePunctuation : Ranges :=
  [(0x0027, 0x0027), (0x002E, 0x002E), (0x003A, 0x003A), (0x00B7, 0x00B7), (0x0387, 0x0387),
   (0x055F, 0x055F), (0x05F4, 0x05F4), (0x2018, 0x2019), (0x2024, 0x2024), (0x2027, 0x2027),
   (0xFE13, 0xFE13), (0xFE52, 0xFE52), (0xFE55, 0xFE55), (0xFF07, 0xFF07), (0xFF0E, 0xFF0E),
   (0xFF1A, 0xFF1A)]

/-- The code points with the property Case_Ignorable. -/
def caseIgnorable : Ranges :=
  .unions [nonspacingMark, enclosingMark, format, modifierLetter, modifierSymbol,
    caseIgnorablePunctuation]

/-- The code points that have case variants. -/
def varyingInCase : Ranges :=
  .unions (foldRuns.map fun run => .union (run.image .all) (run.preimage .all))

/-- The code points with the property Changes_When_Lowercased. -/
def changesWhenLowercased : Ranges :=
  .union (.inter (.union uppercase titlecaseLetter) varyingInCase) (.single 0x0130)

/-- Small letters that are no case variants of their capital form. -/
def capitalizedApart : Ranges :=
  [(0x0131, 0x0131), (0x0149, 0x0149), (0x01F0, 0x01F0), (0x0587, 0x0587), (0x1E96, 0x1E9A),
   (0x1F50, 0x1F50), (0x1F52, 0x1F52), (0x1F54, 0x1F54), (0x1F56, 0x1F56), (0x1FB2, 0x1FB2),
   (0x1FB4, 0x1FB4), (0x1FB6, 0x1FB7), (0x1FC2, 0x1FC2), (0x1FC4, 0x1FC4), (0x1FC6, 0x1FC7),
   (0x1FD2, 0x1FD2), (0x1FD6, 0x1FD7), (0x1FE2, 0x1FE2), (0x1FE4, 0x1FE4), (0x1FE6, 0x1FE7),
   (0x1FF2, 0x1FF2), (0x1FF4, 0x1FF4), (0x1FF6, 0x1FF7), (0xFB00, 0xFB04), (0xFB13, 0xFB17)]

/-- The code points with the property Changes_When_Uppercased. -/
def changesWhenUppercased : Ranges :=
  .union (.inter (.union lowercase titlecaseLetter) varyingInCase) capitalizedApart

/-- Georgian letters, which become capitals only if all letters around them do. -/
def georgianLowercase : Ranges := [(0x10D0, 0x10FA), (0x10FD, 0x10FF)]

/-- Capital digraphs, which have a titlecase form. -/
def capitalDigraph : Ranges :=
  [(0x01C4, 0x01C4), (0x01C7, 0x01C7), (0x01CA, 0x01CA), (0x01F1, 0x01F1)]

/-- The code points with the property Changes_When_Titlecased. -/
def changesWhenTitlecased : Ranges :=
  .union (.diff changesWhenUppercased (.union titlecaseLetter georgianLowercase)) capitalDigraph

/-- The code points with the property Changes_When_Casemapped. -/
def changesWhenCasemapped : Ranges :=
  .unions [changesWhenLowercased, changesWhenUppercased, changesWhenTitlecased]

/-- Cherokee capitals, to which the small letters of the script fold. -/
def cherokeeCapital : Ranges := [(0x13A0, 0x13F5)]

/-- Small letters that fold to others. -/
def foldedLowercase : Ranges :=
  [(0x00B5, 0x00B5), (0x00DF, 0x00DF), (0x0149, 0x0149), (0x017F, 0x017F), (0x0345, 0x0345),
   (0x03C2, 0x03C2), (0x03D0, 0x03D1), (0x03D5, 0x03D6), (0x03F0, 0x03F1), (0x03F5, 0x03F5),
   (0x0587, 0x0587), (0x13F8, 0x13FD), (0x1C80, 0x1C88), (0x1E9A, 0x1E9B), (0x1F80, 0x1F87),
   (0x1F90, 0x1F97), (0x1FA0, 0x1FA7), (0x1FB2, 0x1FB4), (0x1FB7, 0x1FB7), (0x1FC2, 0x1FC4),
   (0x1FC7, 0x1FC7), (0x1FF2, 0x1FF4), (0x1FF7, 0x1FF7), (0xAB70, 0xABBF), (0xFB00, 0xFB06),
   (0xFB13, 0xFB17)]

/-- The code points with the property Changes_When_Casefolded. -/
def changesWhenCasefolded : Ranges :=
  .union (.diff changesWhenLowercased cherokeeCapital) foldedLowercase

end RecordSieve.Unicode
