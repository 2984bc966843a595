import RecordSieve.Unicode.Break.Word
import RecordSieve.Unicode.Property.Punctuation

/-!
# Sentence breaks

The classes by which a text is parted into sentences.
-/

namespace RecordSieve.Unicode

/-- What extends the character before it. -/
def sentenceExtend : Ranges := .unions [graphemeExtend, spacingMark, zeroWidthJoiner]

/-- Small letters. -/
def sentenceLower : Ranges := .diff lowercase (.union graphemeExtend georgianLowercase)

/-- Capitals that a sentence can begin with. -/
def sentenceUpper : Ranges :=
  .diff (.union uppercase titlecaseLetter) [(0x1C90, 0x1CBA), (0x1CBD, 0x1CBF)]

/-- Letters that are neither. -/
def sentenceLetter : Ranges :=
  .diff (.union alphabetic [(0x05F3, 0x05F3), (0x070F, 0x070F)])
    (.unions [sentenceLower, sentenceUpper, sentenceExtend])

/-- Stops that do not always end a sentence. -/
def ambiguousStop : Ranges :=
  [(0x002E, 0x002E), (0x2024, 0x2024), (0xFE52, 0xFE52), (0xFF0E, 0xFF0E)]

/-- Stops that end a sentence. -/
def plainStop : Ranges := .diff sentenceTerminal ambiguousStop

/-- Quotation marks, and ornaments that are used as such. -/
def quotation : Ranges :=
  [(0x0022, 0x0022), (0x0027, 0x0027), (0x00AB, 0x00AB), (0x00BB, 0x00BB), (0x2018, 0x2019),
   (0x201B, 0x201D), (0x201F, 0x201F), (0x2039, 0x203A), (0x275B, 0x2760), (0x2E00, 0x2E0D),
   (0x2E1C, 0x2E1D), (0x2E20, 0x2E21), (0x1F676, 0x1F678)]

/-- Brackets and quotation marks. -/
def sentenceClose : Ranges :=
  .diff
    (.unions [openPunctuation, closePunctuation, initialPunctuation, finalPunctuation, quotation])
    (.unions [.single 0x05F3, ambiguousStop, plainStop])

/-- The classes of sentence breaks. -/
def sentenceBreaks : List NamedSet :=
  [⟨["ATerm", "AT"], ambiguousStop⟩, ⟨["CR"], .single 0x000D⟩, ⟨["Close", "CL"], sentenceClose⟩,
   ⟨["Extend", "EX"], sentenceExtend⟩,
   ⟨["Format", "FO"], .union wordFormat (.single 0x200B)⟩, ⟨["LF"], .single 0x000A⟩,
   ⟨["Lower", "LO"], sentenceLower⟩,
   ⟨["Numeric", "NU"], .union wordNumeric (.single 0x066C)⟩, ⟨["OLetter", "LE"], sentenceLetter⟩,
   ⟨["SContinue", "SC"],
    [(0x002C, 0x002D), (0x003A, 0x003B), (0x037E, 0x037E), (0x055D, 0x055D), (0x060C, 0x060D),
     (0x07F8, 0x07F8), (0x1802, 0x1802), (0x1808, 0x1808), (0x2013, 0x2014), (0x3001, 0x3001),
     (0xFE10, 0xFE11), (0xFE13, 0xFE14), (0xFE31, 0xFE32), (0xFE50, 0xFE51), (0xFE54, 0xFE55),
     (0xFE58, 0xFE58), (0xFE63, 0xFE63), (0xFF0C, 0xFF0D), (0xFF1A, 0xFF1B), (0xFF64, 0xFF64)]⟩,
   ⟨["STerm", "ST"], plainStop⟩,
   ⟨["Sep", "SE"], [(0x0085, 0x0085), (0x2028, 0x2029)]⟩,
   ⟨["Sp", "SP"],
    [(0x0009, 0x0009), (0x000B, 0x000C), (0x0020, 0x0020), (0x00A0, 0x00A0), (0x1680, 0x1680),
     (0x2000, 0x200A), (0x202F, 0x202F), (0x205F, 0x205F), (0x3000, 0x3000)]⟩,
   ⟨["Upper", "UP"], sentenceUpper⟩]

end RecordSieve.Unicode
