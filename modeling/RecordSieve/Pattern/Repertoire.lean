import RecordSieve.Unicode.Blank
import RecordSieve.Unicode.CaseFold
import RecordSieve.Unicode.Word

/-!
# Repertoires

A pattern knows either all characters or, where it asks for it, the ASCII characters only. On this
depends what a digit, a blank or a word character is, which letters vary in case, and whether there
is such a thing as all the other characters.
-/

namespace RecordSieve

open Unicode (Ranges)

/-- The characters that a pattern knows. -/
inductive Repertoire where
  /-- All characters. -/
  | unicode
  /-- The ASCII characters. -/
  | ascii
  deriving DecidableEq, Repr

namespace Repertoire

/-- The decimal digits. -/
def digit : Repertoire → Ranges
  | unicode => Unicode.decimalNumber
  | ascii => [(0x30, 0x39)]

/-- White space. -/
def blank : Repertoire → Ranges
  | unicode => Unicode.whiteSpace
  | ascii => [(0x09, 0x0D), (0x20, 0x20)]

/-- The characters that words are made of. -/
def word : Repertoire → Ranges
  | unicode => Unicode.word
  | ascii => [(0x30, 0x39), (0x41, 0x5A), (0x5F, 0x5F), (0x61, 0x7A)]

/-- Does a code point belong to the repertoire? -/
def contains : Repertoire → Nat → Bool
  | unicode, _ => true
  | ascii, n => n < 128

/-- The members of a set and their case variants. -/
def folded : Repertoire → Ranges → Ranges
  | unicode, s => s.folded
  | ascii, s => s.foldedAscii

/-- What lies outside a set. Beyond the ASCII characters there are only bytes, of which no text is
made, so a set of ASCII characters has no complement there. -/
def compl? : Repertoire → Ranges → Option Ranges
  | unicode, s => some s.compl
  | ascii, _ => none

end Repertoire

/-- The ASCII class of a name, as it is written between `[:` and `:]`. -/
def Unicode.Ranges.ofClassName? : String → Option Ranges
  | "alnum" => some [(0x30, 0x39), (0x41, 0x5A), (0x61, 0x7A)]
  | "alpha" => some [(0x41, 0x5A), (0x61, 0x7A)]
  | "ascii" => some [(0x00, 0x7F)]
  | "blank" => some [(0x09, 0x09), (0x20, 0x20)]
  | "cntrl" => some [(0x00, 0x1F), (0x7F, 0x7F)]
  | "digit" => some [(0x30, 0x39)]
  | "graph" => some [(0x21, 0x7E)]
  | "lower" => some [(0x61, 0x7A)]
  | "print" => some [(0x20, 0x7E)]
  | "punct" => some [(0x21, 0x2F), (0x3A, 0x40), (0x5B, 0x60), (0x7B, 0x7E)]
  | "space" => some [(0x09, 0x0D), (0x20, 0x20)]
  | "upper" => some [(0x41, 0x5A)]
  | "word" => some [(0x30, 0x39), (0x41, 0x5A), (0x5F, 0x5F), (0x61, 0x7A)]
  | "xdigit" => some [(0x30, 0x39), (0x41, 0x46), (0x61, 0x66)]
  | _ => none

end RecordSieve
