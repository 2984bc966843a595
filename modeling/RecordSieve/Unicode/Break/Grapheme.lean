import RecordSieve.Unicode.Property.Emoji
import RecordSieve.Unicode.Property.Grapheme

/-!
# Grapheme cluster breaks

The classes by which a text is parted into what a reader takes for single signs.
-/

namespace RecordSieve.Unicode

/-- What extends the sign before it. -/
def clusterExtend : Ranges := .union graphemeExtend emojiModifier

/-- The zero width joiner. -/
def zeroWidthJoiner : Ranges := .single 0x200D

/-- What stands apart from the signs around it. -/
def clusterControl : Ranges :=
  .diff
    (.unions [lineSeparator, paragraphSeparator, control, format,
      .inter unassigned defaultIgnorable])
    (.unions [[(0x000A, 0x000A), (0x000D, 0x000D)], zeroWidthJoiner, prependedConcatenationMark,
      clusterExtend])

/-- What belongs to the sign behind it. -/
def clusterPrepend : Ranges :=
  [(0x0600, 0x0605), (0x06DD, 0x06DD), (0x070F, 0x070F), (0x0890, 0x0891), (0x08E2, 0x08E2),
   (0x0D4E, 0x0D4E), (0x110BD, 0x110BD), (0x110CD, 0x110CD), (0x111C2, 0x111C3), (0x113D1, 0x113D1),
   (0x1193F, 0x1193F), (0x11941, 0x11941), (0x11A3A, 0x11A3A), (0x11A84, 0x11A89),
   (0x11D46, 0x11D46), (0x11F02, 0x11F02)]

/-- Spacing marks that do not belong to the sign before them. -/
def separateSpacingMark : Ranges :=
  [(0x102B, 0x102C), (0x1038, 0x1038), (0x1062, 0x1064), (0x1067, 0x106D), (0x1083, 0x1083),
   (0x1087, 0x108C), (0x108F, 0x108F), (0x109A, 0x109C), (0x1A61, 0x1A61), (0x1A63, 0x1A64),
   (0xAA7B, 0xAA7B), (0xAA7D, 0xAA7D), (0x11720, 0x11721)]

/-- Spacing marks that belong to the sign before them. -/
def clusterSpacingMark : Ranges :=
  .diff (.union spacingMark [(0x0E33, 0x0E33), (0x0EB3, 0x0EB3)])
    (.union clusterExtend separateSpacingMark)

/-- The first code point of each Korean syllable that ends in a vowel; 27 syllables that end in a
consonant stand behind it. -/
def openSyllables : List Nat := (List.range 399).map fun n => 0xAC00 + 28 * n

/-- The classes of grapheme cluster breaks. -/
def graphemeBreaks : List NamedSet :=
  [⟨["Control", "CN"], clusterControl⟩, ⟨["CR"], .single 0x000D⟩,
   ⟨["Extend", "EX"], clusterExtend⟩, ⟨["L"], [(0x1100, 0x115F), (0xA960, 0xA97C)]⟩,
   ⟨["LF"], .single 0x000A⟩, ⟨["LV"], openSyllables.map fun n => (n, n)⟩,
   ⟨["LVT"], openSyllables.map fun n => (n + 1, n + 27)⟩, ⟨["Prepend", "PP"], clusterPrepend⟩,
   ⟨["Regional_Indicator", "RI"], regionalIndicator⟩,
   ⟨["SpacingMark", "SM"], clusterSpacingMark⟩,
   ⟨["T"], [(0x11A8, 0x11FF), (0xD7CB, 0xD7FB)]⟩,
   ⟨["V"], [(0x1160, 0x11A7), (0xD7B0, 0xD7C6), (0x16D63, 0x16D63), (0x16D67, 0x16D6A)]⟩,
   ⟨["ZWJ"], zeroWidthJoiner⟩]

end RecordSieve.Unicode
