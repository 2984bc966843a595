import RecordSieve.Unicode.Ranges

/-!
# Encoded ranges

In UTF-8 a character is a sequence of one to four bytes, and the characters of a range are some
such sequences. `Ranges.byteSequences` lists them as few sequences of byte ranges: each stands for
all sequences that take each of their bytes from one of its ranges. To that end a range is cut
where the number of bytes changes, and then so that each piece either lies within one block of
characters that differ in their last bytes only, or is made up of whole blocks.
-/

namespace RecordSieve.Unicode

/-- A range of bytes, as its first and its last one. -/
abbrev ByteRange := Nat × Nat

/-- The bytes of a character. -/
def encode (n : Nat) : List Nat := (String.utf8EncodeChar (Char.ofNat n)).map (·.toNat)

namespace Ranges

/-- The parts of a range, cut behind each of some code points in ascending order. -/
def cutBehind (first last : Nat) : List Nat → Ranges
  | [] => [(first, last)]
  | cut :: cuts =>
    if first ≤ cut && cut < last then (first, cut) :: cutBehind (cut + 1) last cuts
    else cutBehind first last cuts

/-- The part of a range in front of the surrogates and the part behind them. -/
def besideSurrogates (first last : Nat) : Ranges :=
  [(first, min last 0xD7FF), (max first 0xE000, last)].filter fun (first, last) => first ≤ last

/-- The pieces of a range, for the sizes of blocks to be tried, from the least to the greatest. -/
def pieces (first last : Nat) : (sizes : List Nat) → Ranges
  | [] => [(first, last)]
  | size :: sizes =>
    if first / size = last / size then [(first, last)]
    else
      let start := (first + size - 1) / size * size
      let stop := (last + 1) / size * size
      let before := if first < start then [(first, start - 1)] else []
      let between := if start < stop then pieces start (stop - 1) sizes else []
      let behind := if stop ≤ last then [(stop, last)] else []
      before ++ between ++ behind

/-- The encoded characters of a range. Characters of one byte need no further cutting. -/
def encoded (first last : Nat) : List (List ByteRange) :=
  (besideSurrogates first last).flatMap fun (first, last) =>
    (cutBehind first last [0x7F, 0x7FF, 0xFFFF]).flatMap fun (first, last) =>
      (if last < 128 then [(first, last)] else pieces first last [64, 4096, 262144]).map
        fun (first, last) => (encode first).zip (encode last)

/-- The encoded members of a set, in ascending order. -/
def byteSequences (s : Ranges) : List (List ByteRange) :=
  s.flatMap fun (first, last) => encoded first last

end Ranges

end RecordSieve.Unicode
