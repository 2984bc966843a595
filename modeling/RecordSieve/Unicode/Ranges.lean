/-!
# Sets of code points

A set of code points is given by closed ranges in ascending order. Ranges that overlap or touch
are joined, so that a set has as few of them as it can; an exception are the ranges on either side
of the surrogates, which no character has: they are neighbours as characters and stay apart as
ranges.

`Ranges.contains` is the meaning of a set, and the operations work on the ranges directly. The
tables of this library state the properties of characters as of Unicode 16.
-/

namespace RecordSieve.Unicode

/-- Closed ranges of code points, ascending and apart. -/
abbrev Ranges := List (Nat × Nat)

/-- The greatest code point. -/
def lastCodePoint : Nat := 0x10FFFF

/-- The code point of the character behind a given one; it lies beyond the surrogates if need
be. -/
def successor (n : Nat) : Nat := if n = 0xD7FF then 0xE000 else n + 1

/-- The code point of the character in front of a given one. -/
def predecessor (n : Nat) : Nat := if n = 0xE000 then 0xD7FF else n - 1

namespace Ranges

/-- Does a code point lie in one of the ranges? The search stops at the first range that begins
beyond it. -/
def contains : Ranges → Nat → Bool
  | [], _ => false
  | (first, last) :: rest, n => first ≤ n && (n ≤ last || contains rest n)

/-- The set of one code point. -/
def single (n : Nat) : Ranges := [(n, n)]

/-- The set of all code points. -/
def all : Ranges := [(0, lastCodePoint)]

/-- Are all members ASCII characters? -/
def isAscii (a : Ranges) : Bool := List.all a fun (_, last) => last < 128

/-! ### Unions -/

/-- Puts a range in front of ranges that begin no earlier, and joins it with those it reaches. -/
def joinOnto (first last : Nat) : Ranges → Ranges
  | [] => [(first, last)]
  | (first', last') :: rest =>
    if first' ≤ last + 1 then joinOnto first (max last last') rest
    else (first, last) :: (first', last') :: rest

/-- Joins ascending ranges. -/
def joined : Ranges → Ranges
  | [] => []
  | (first, last) :: rest => joinOnto first last (joined rest)

/-- Merges a range, and behind it what `others` gives, into ranges in ascending order. -/
def mergeWith (range : Nat × Nat) (others : Ranges → Ranges) : Ranges → Ranges
  | [] => range :: others []
  | (first, last) :: rest =>
    if first < range.1 then (first, last) :: mergeWith range others rest
    else range :: others ((first, last) :: rest)

/-- Merges two lists of ranges in ascending order. -/
def merge : Ranges → Ranges → Ranges
  | [], b => b
  | range :: a, b => mergeWith range (merge a) b

/-- The members of either set. -/
def union (a b : Ranges) : Ranges := if b.isEmpty then a else joined (merge a b)

/-- The members of some sets. -/
def unions (sets : List Ranges) : Ranges := sets.foldl union []

/-! ### Intersections, differences and complements -/

/-- The part of a set between two code points. -/
def clip (first last : Nat) : Ranges → Ranges
  | [] => []
  | (first', last') :: rest =>
    if last < first' then []
    else if last' < first then clip first last rest
    else (max first first', min last last') :: clip first last rest

/-- The members of both sets. -/
def inter (a b : Ranges) : Ranges := a.flatMap fun (first, last) => clip first last b

/-- The code points from `first` to `last` that are no members of a set. -/
def without (first last : Nat) : Ranges → Ranges
  | [] => [(first, last)]
  | (first', last') :: rest =>
    if last < first' then [(first, last)]
    else if last' < first then without first last rest
    else
      let before := if first < first' then [(first, predecessor first')] else []
      before ++ if last' < last then without (successor last') last rest else []

/-- The members of the first set that are none of the second. -/
def diff (a b : Ranges) : Ranges := a.flatMap fun (first, last) => without first last b

/-- The members of exactly one of two sets. -/
def symmDiff (a b : Ranges) : Ranges := diff (union a b) (inter a b)

/-- The gaps behind a range that ends at `last`. Between two ranges that touch at the surrogates
there is no character; the gap is made of its two ends all the same, whichever comes first, so
it holds both. -/
def gapsBehind (last : Nat) : Ranges → Ranges
  | [] => if last < lastCodePoint then [(successor last, lastCodePoint)] else []
  | (first', last') :: rest =>
    let first := successor last
    let stop := predecessor first'
    (min first stop, max first stop) :: gapsBehind last' rest

/-- The code points that are no members. -/
def compl : Ranges → Ranges
  | [] => all
  | (first, last) :: rest =>
    let before := if 0 < first then [(0, predecessor first)] else []
    before ++ gapsBehind last rest

end Ranges

end RecordSieve.Unicode
