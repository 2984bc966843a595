import RecordSieve.Unicode.Category.Group
import RecordSieve.Unicode.Property.Contributory
import RecordSieve.Unicode.Property.Writing

/-!
# Properties of graphemes

What a reader takes for one sign is a base and the characters that extend it.
-/

namespace RecordSieve.Unicode

/-- The code points with the property Grapheme_Extend. -/
def graphemeExtend : Ranges := .unions [nonspacingMark, enclosingMark, otherGraphemeExtend]

/-- The code points with the property Grapheme_Base. -/
def graphemeBase : Ranges :=
  (Ranges.unions [otherCodePoint, lineSeparator, paragraphSeparator, graphemeExtend]).compl

/-- Code points of the category Format that are seen. -/
def visibleFormat : Ranges :=
  .union prependedConcatenationMark [(0xFFF9, 0xFFFB), (0x13430, 0x1343F)]

/-- The code points with the property Default_Ignorable_Code_Point. -/
def defaultIgnorable : Ranges :=
  .unions [.diff format visibleFormat, variationSelector, otherDefaultIgnorable]

end RecordSieve.Unicode
