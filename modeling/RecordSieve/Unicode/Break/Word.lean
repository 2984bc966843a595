import RecordSieve.Unicode.Break.Grapheme
import RecordSieve.Unicode.Property.Alphabetic
import RecordSieve.Unicode.Property.Ideograph
import RecordSieve.Unicode.Script.Table

/-!
# Word breaks

The classes by which a text is parted into words.
-/

namespace RecordSieve.Unicode

/-- The characters of a script that is known to exist. -/
def scriptNamed (name : String) : Ranges := (scriptMembers? (looseName name.toList)).getD []

/-- What extends the character before it. -/
def wordExtend : Ranges :=
  .diff (.unions [graphemeExtend, spacingMark, emojiModifier]) zeroWidthJoiner

/-- Invisible characters within words. -/
def wordFormat : Ranges :=
  .diff format
    (.unions [wordExtend, zeroWidthJoiner, .single 0x200B, prependedConcatenationMark])

/-- Katakana and the signs that are used with it. -/
def wordKatakana : Ranges :=
  .union (scriptNamed "Katakana")
    [(0x3031, 0x3035), (0x309B, 0x309C), (0x30A0, 0x30A0), (0x30FC, 0x30FC), (0xFF70, 0xFF70)]

/-- Hebrew letters. -/
def hebrewLetter : Ranges := .inter (scriptNamed "Hebrew") otherLetter

/-- Letters of scripts in which words are not parted by spaces. -/
def complexLetter : Ranges :=
  [(0x0E01, 0x0E30), (0x0E32, 0x0E33), (0x0E40, 0x0E46), (0x0E81, 0x0E82), (0x0E84, 0x0E84),
   (0x0E86, 0x0E8A), (0x0E8C, 0x0EA3), (0x0EA5, 0x0EA5), (0x0EA7, 0x0EB0), (0x0EB2, 0x0EB3),
   (0x0EBD, 0x0EBD), (0x0EC0, 0x0EC4), (0x0EC6, 0x0EC6), (0x0EDC, 0x0EDF), (0x1000, 0x102A),
   (0x103F, 0x103F), (0x1050, 0x1055), (0x105A, 0x105D), (0x1061, 0x1061), (0x1065, 0x1066),
   (0x106E, 0x1070), (0x1075, 0x1081), (0x108E, 0x108E), (0x1780, 0x17B3), (0x17D7, 0x17D7),
   (0x17DC, 0x17DC), (0x1950, 0x196D), (0x1970, 0x1974), (0x1980, 0x19AB), (0x19B0, 0x19C9),
   (0x1A20, 0x1A54), (0x1AA7, 0x1AA7), (0xA9E0, 0xA9E4), (0xA9E6, 0xA9EF), (0xA9FA, 0xA9FE),
   (0xAA60, 0xAA76), (0xAA7A, 0xAA7A), (0xAA7E, 0xAAAF), (0xAAB1, 0xAAB1), (0xAAB5, 0xAAB6),
   (0xAAB9, 0xAABD), (0xAAC0, 0xAAC0), (0xAAC2, 0xAAC2), (0xAADB, 0xAADD), (0x11700, 0x1171A),
   (0x11740, 0x11746)]

/-- Signs that count as letters of words. -/
def wordLetterSign : Ranges :=
  [(0x02C2, 0x02C5), (0x02D2, 0x02D7), (0x02DE, 0x02DF), (0x02E5, 0x02EB), (0x02ED, 0x02ED),
   (0x02EF, 0x02FF), (0x055A, 0x055C), (0x055E, 0x055E), (0x058A, 0x058A), (0x05F3, 0x05F3),
   (0x070F, 0x070F), (0xA708, 0xA716), (0xA720, 0xA721), (0xA789, 0xA78A), (0xAB5B, 0xAB5B)]

/-- The letters that words are made of. -/
def wordLetter : Ranges :=
  .diff (.union alphabetic wordLetterSign)
    (.unions [ideographic, wordKatakana, complexLetter, scriptNamed "Hiragana", wordExtend,
      hebrewLetter])

/-- Signs that stand in front of numbers and belong to them. -/
def numberSign : Ranges := .diff prependedConcatenationMark (.single 0x070F)

/-- The digits of numbers and their decimal sign in Arabic. -/
def wordNumeric : Ranges := .unions [decimalNumber, .single 0x066B, numberSign]

/-- The classes of word breaks. -/
def wordBreaks : List NamedSet :=
  [⟨["ALetter", "LE"], wordLetter⟩, ⟨["CR"], .single 0x000D⟩,
   ⟨["Double_Quote", "DQ"], .single 0x0022⟩, ⟨["Extend"], wordExtend⟩,
   ⟨["ExtendNumLet", "EX"], .union connectorPunctuation (.single 0x202F)⟩,
   ⟨["Format", "FO"], wordFormat⟩, ⟨["Hebrew_Letter", "HL"], hebrewLetter⟩,
   ⟨["Katakana", "KA"], wordKatakana⟩, ⟨["LF"], .single 0x000A⟩,
   ⟨["MidLetter", "ML"],
    [(0x003A, 0x003A), (0x00B7, 0x00B7), (0x0387, 0x0387), (0x055F, 0x055F), (0x05F4, 0x05F4),
     (0x2027, 0x2027), (0xFE13, 0xFE13), (0xFE55, 0xFE55), (0xFF1A, 0xFF1A)]⟩,
   ⟨["MidNum", "MN"],
    [(0x002C, 0x002C), (0x003B, 0x003B), (0x037E, 0x037E), (0x0589, 0x0589), (0x060C, 0x060D),
     (0x066C, 0x066C), (0x07F8, 0x07F8), (0x2044, 0x2044), (0xFE10, 0xFE10), (0xFE14, 0xFE14),
     (0xFE50, 0xFE50), (0xFE54, 0xFE54), (0xFF0C, 0xFF0C), (0xFF1B, 0xFF1B)]⟩,
   ⟨["MidNumLet", "MB"],
    [(0x002E, 0x002E), (0x2018, 0x2019), (0x2024, 0x2024), (0xFE52, 0xFE52), (0xFF07, 0xFF07),
     (0xFF0E, 0xFF0E)]⟩,
   ⟨["Newline", "NL"], [(0x000B, 0x000C), (0x0085, 0x0085), (0x2028, 0x2029)]⟩,
   ⟨["Numeric", "NU"], wordNumeric⟩, ⟨["Regional_Indicator", "RI"], regionalIndicator⟩,
   ⟨["Single_Quote", "SQ"], .single 0x0027⟩,
   ⟨["WSegSpace"],
    [(0x0020, 0x0020), (0x1680, 0x1680), (0x2000, 0x2006), (0x2008, 0x200A), (0x205F, 0x205F),
     (0x3000, 0x3000)]⟩,
   ⟨["ZWJ"], zeroWidthJoiner⟩]

end RecordSieve.Unicode
