import RecordSieve.Unicode.Ranges

/-!
# Separators and other code points

Separators of words, lines and paragraphs; code points that control a text; and those that stand for no
character of the standard.
-/

namespace RecordSieve.Unicode

/-- The code points of the general category Space Separator. -/
def spaceSeparator : Ranges :=
  [(0x0020, 0x0020), (0x00A0, 0x00A0), (0x1680, 0x1680), (0x2000, 0x200A), (0x202F, 0x202F),
   (0x205F, 0x205F), (0x3000, 0x3000)]

/-- The code points of the general category Line Separator. -/
def lineSeparator : Ranges :=
  [(0x2028, 0x2028)]

/-- The code points of the general category Paragraph Separator. -/
def paragraphSeparator : Ranges :=
  [(0x2029, 0x2029)]

/-- The code points of the general category Control. -/
def control : Ranges :=
  [(0x0000, 0x001F), (0x007F, 0x009F)]

/-- The code points of the general category Format. -/
def format : Ranges :=
  [(0x00AD, 0x00AD), (0x0600, 0x0605), (0x061C, 0x061C), (0x06DD, 0x06DD), (0x070F, 0x070F),
   (0x0890, 0x0891), (0x08E2, 0x08E2), (0x180E, 0x180E), (0x200B, 0x200F), (0x202A, 0x202E),
   (0x2060, 0x2064), (0x2066, 0x206F), (0xFEFF, 0xFEFF), (0xFFF9, 0xFFFB), (0x110BD, 0x110BD),
   (0x110CD, 0x110CD), (0x13430, 0x1343F), (0x1BCA0, 0x1BCA3), (0x1D173, 0x1D17A),
   (0xE0001, 0xE0001), (0xE0020, 0xE007F)]

/-- The code points of the general category Private Use. -/
def privateUse : Ranges :=
  [(0xE000, 0xF8FF), (0xF0000, 0xFFFFD), (0x100000, 0x10FFFD)]

/-- The code points of the general category Surrogate. No character is one of them. -/
def surrogate : Ranges :=
  [(0xD800, 0xDFFF)]

end RecordSieve.Unicode
