import RecordSieve.Number.Basic
import RecordSieve.Number.Digits

/-!
# Numerals

The written form of a number: an optional minus sign, digits without leading zeros, and
optionally a fraction and an exponent. A numeral without fraction and exponent is an integer if
some word holds it (minus zero excepted, which only a double can tell from zero); every other
numeral is a double, and one that is too large for any double has no number at all.

The double is computed in the way of fast readers, not by rounding the numeral once: the digits
are gathered in a word, as many as fit it, and the word, as a double, is multiplied or divided by a
power of ten, which is a double itself. The result may be off the nearest double by a little.
-/

namespace RecordSieve

/-- A number as it is written. -/
structure Numeral where
  /-- Is there a minus sign? -/
  negative : Bool
  /-- The digits before the point. -/
  whole : List Char
  /-- The digits behind the point. -/
  fraction : List Char
  /-- The exponent of ten. -/
  exponent : Int
  /-- Is there neither a fraction nor an exponent? -/
  plain : Bool

namespace Numeral

/-- The digits behind a point, and the text behind them; a point without digits is refused. -/
def fraction? : List Char → Option (List Char × List Char)
  | '.' :: text =>
    match Digits.split text with
    | ([], _) => none
    | (digits, rest) => some (digits, rest)
  | text => some ([], text)

/-- The exponent behind its mark, if the text is one; digits must follow the sign. -/
def exponent? (text : List Char) : Option Int :=
  let (negative, text) :=
    match text with
    | '-' :: rest => (true, rest)
    | '+' :: rest => (false, rest)
    | _ => (false, text)
  match Digits.split text with
  | (digit :: digits, []) =>
    let size : Int := Digits.value (digit :: digits)
    some (if negative then -size else size)
  | _ => none

/-- The numeral that a text is. -/
def ofChars? (text : List Char) : Option Numeral := do
  let (negative, text) :=
    match text with
    | '-' :: rest => (true, rest)
    | _ => (false, text)
  let (whole, afterWhole) := Digits.split text
  guard (whole == ['0'] || (!whole.isEmpty && whole.head? != some '0'))
  let (fraction, afterFraction) ← fraction? afterWhole
  match afterFraction with
  | [] => return ⟨negative, whole, fraction, 0, afterWhole.isEmpty⟩
  | mark :: rest =>
    guard (mark == 'e' || mark == 'E')
    return ⟨negative, whole, fraction, ← exponent? rest, false⟩

/-! ### The double of a numeral -/

/-- Digits gathered in a word, and the power of ten that it is still to be multiplied by. -/
structure Gathered where
  /-- The word. -/
  word : Nat
  /-- The exponent of the power of ten. -/
  exponent : Int

/-- Appends a digit to a word, if the word can hold it. -/
def append? (word : Nat) (digit : Char) : Option Nat :=
  let word := Digits.value [digit] + 10 * word
  if word < UInt64.size then some word else none

/-- Gathers the digits before the point. From the first one on that does not fit, each digit only
counts as a power of ten. -/
def gatherWhole (word : Nat) : List Char → Gathered
  | [] => ⟨word, 0⟩
  | digit :: digits =>
    match append? word digit with
    | some word => gatherWhole word digits
    | none => ⟨word, (digit :: digits).length⟩

/-- Gathers the digits behind the point; those from the first one on that does not fit are
ignored. -/
def gatherFraction (g : Gathered) : List Char → Gathered
  | [] => g
  | digit :: digits =>
    match append? g.word digit with
    | some word => gatherFraction ⟨word, g.exponent - 1⟩ digits
    | none => g

/-- The digits of a numeral, gathered. -/
def gathered (x : Numeral) : Gathered := gatherFraction (gatherWhole 0 x.whole) x.fraction

/-- The greatest exponent of a power of ten that is a double. -/
def powerLimit : Nat := 308

/-- The double nearest to a power of ten. -/
def power (exponent : Nat) : Double := .ofRatio false (Nat.pow 10 exponent) 1

/-- A double divided by a power of ten, in as many steps as there must be. -/
def scaledDown (x : Double) (exponent : Nat) : Double :=
  if exponent ≤ powerLimit then x.div (power exponent)
  else if x.magnitude = 0 then x
  else scaledDown (x.div (power powerLimit)) (exponent - powerLimit)
termination_by exponent
decreasing_by simp_all [powerLimit]; omega

/-- A double multiplied by a power of ten, unless that is too large. -/
def scaledUp? (x : Double) (exponent : Nat) : Option Double :=
  if x.magnitude = 0 then some x
  else if powerLimit < exponent then none
  else
    let result := x.mul (power exponent)
    if result.isFinite then some result else none

/-- The double that a numeral stands for, unless it is too large. An exponent that is itself out of
bounds makes the number zero or too large, whatever other digits there are. -/
def double? (x : Numeral) : Option Double :=
  let g := x.gathered
  let word : Double := .ofInt g.word
  let exponent := g.exponent + x.exponent
  let size? :=
    if Int32.maxValue.toInt < x.exponent.natAbs then
      if g.word = 0 || x.exponent < 0 then some (.ofInt 0) else none
    else if exponent < 0 then some (scaledDown word exponent.natAbs)
    else scaledUp? word exponent.natAbs
  size?.map fun size => if x.negative then size.neg else size

/-- The number that a numeral stands for. -/
def number? (x : Numeral) : Option Number :=
  let size := Digits.value x.whole
  let integer : Option Number :=
    if !x.plain || (x.negative && size == 0) then none
    else Number.ofInt? (if x.negative then -size else size)
  integer.orElse fun _ => x.double?.map .double

end Numeral

/-- The number that a text stands for. -/
def Number.ofChars? (text : List Char) : Option Number := (Numeral.ofChars? text).bind (·.number?)

end RecordSieve
