import RecordSieve.Number.Numeral
import RecordSieve.Scalar

/-!
# Tokens

The text of a value, cut into tokens: brackets, commas, colons and scalars. The cutting is done by
an automaton that reads one character at a time; its state (`Cutter`) says what is being read, and
with it what was read of it so far. Words and numbers have no end mark of their own, so the
character behind one both ends it and begins what comes next.

Strings are strict: no raw control characters, only the escapes of the format, and a `\u` escape
for half a surrogate pair must be followed at once by the other half.
-/

namespace RecordSieve

/-- A token of the text of a value. -/
inductive Token where
  /-- An opening square bracket. -/
  | openArray
  /-- A closing square bracket. -/
  | closeArray
  /-- An opening brace. -/
  | openObject
  /-- A closing brace. -/
  | closeObject
  /-- A comma. -/
  | comma
  /-- A colon. -/
  | colon
  /-- A word, a number or a string. -/
  | scalar (s : Scalar)

/-- What is being read. Characters read so far are kept last first. -/
inductive Cutter where
  /-- Nothing: the last token has ended. -/
  | between
  /-- A word. -/
  | word (read : List Char)
  /-- A number. -/
  | number (read : List Char)
  /-- A string. -/
  | string (read : List Char)
  /-- A string, behind a backslash. -/
  | escape (read : List Char)
  /-- A string, inside the four digits of a code unit: their value so far and how many are to
  come. `high` is the first half of a surrogate pair of which this is to be the second. -/
  | unit (read : List Char) (high : Option Nat) (value : Nat) (left : Nat)
  /-- A string, behind the first half of a surrogate pair: a backslash must follow. -/
  | pairBackslash (read : List Char) (high : Nat)
  /-- A string, behind that backslash: the letter `u` must follow. -/
  | pairLetter (read : List Char) (high : Nat)

namespace Cutter

/-- The scalar that a word stands for. -/
def wordScalar? (word : List Char) : Option Scalar :=
  match String.ofList word with
  | "null" => some .null
  | "true" => some (.bool true)
  | "false" => some (.bool false)
  | _ => none

/-- The character that an escape of one letter stands for. -/
def escaped? : Char → Option Char
  | '"' => some '"'
  | '\\' => some '\\'
  | '/' => some '/'
  | 'b' => some '\x08'
  | 'f' => some '\x0C'
  | 'n' => some '\n'
  | 'r' => some '\r'
  | 't' => some '\t'
  | _ => none

/-- May a character stand in a number? -/
def inNumber (c : Char) : Bool :=
  c.isDigit || c == '+' || c == '-' || c == '.' || c == 'e' || c == 'E'

/-- Reads the first character of a token, or blank space. -/
def start : Char → Option (Cutter × List Token)
  | '[' => some (between, [.openArray])
  | ']' => some (between, [.closeArray])
  | '{' => some (between, [.openObject])
  | '}' => some (between, [.closeObject])
  | ',' => some (between, [.comma])
  | ':' => some (between, [.colon])
  | '"' => some (string [], [])
  | ' ' => some (between, [])
  | '\t' => some (between, [])
  | '\n' => some (between, [])
  | '\r' => some (between, [])
  | c =>
    if c.isDigit || c == '-' then some (number [c], [])
    else if c.isLower then some (word [c], [])
    else none

/-- Goes on after a code unit: it is a character, half of a surrogate pair, or a fault. -/
def afterUnit (read : List Char) (high : Option Nat) (value : Nat) : Option Cutter :=
  let isLow := 0xDC00 ≤ value && value < 0xE000
  match high with
  | none =>
    if 0xD800 ≤ value && value < 0xDC00 then some (pairBackslash read value)
    else if isLow then none
    else some (string (Char.ofNat value :: read))
  | some high =>
    if isLow then
      some (string (Char.ofNat (0x10000 + (high - 0xD800) * 0x400 + (value - 0xDC00)) :: read))
    else none

/-- The token that ends where the text ends, if the text may end here. -/
def finish : Cutter → Option (List Token)
  | between => some []
  | word read => (wordScalar? read.reverse).map fun s => [.scalar s]
  | number read => (Number.ofChars? read.reverse).map fun n => [.scalar (.number n)]
  | _ => none

/-- Reads one character, and gives back the tokens that end with it or before it. -/
def step (state : Cutter) (c : Char) : Option (Cutter × List Token) :=
  match state with
  | between => start c
  | word read => if c.isLower then some (word (c :: read), []) else restart
  | number read => if inNumber c then some (number (c :: read), []) else restart
  | string read =>
    if c = '"' then some (between, [.scalar (.string (String.ofList read.reverse))])
    else if c = '\\' then some (escape read, [])
    else if c.toNat < 0x20 then none
    else some (string (c :: read), [])
  | escape read =>
    if c = 'u' then some (unit read none 0 4, [])
    else (escaped? c).map fun d => (string (d :: read), [])
  | unit read high value left => do
    let value := 16 * value + (← Digits.hex? c)
    if left ≤ 1 then return (← afterUnit read high value, [])
    else return (unit read high value (left - 1), [])
  | pairBackslash read high => if c = '\\' then some (pairLetter read high, []) else none
  | pairLetter read high => if c = 'u' then some (unit read (some high) 0 4, []) else none
where
  /-- Ends the token being read and begins the next one. -/
  restart : Option (Cutter × List Token) := do
    let ended ← state.finish
    let (next, tokens) ← start c
    return (next, ended ++ tokens)

end Cutter

/-- The tokens of a text. -/
def Token.ofChars? (text : List Char) : Option (List Token) := do
  let (state, tokens) ← text.foldlM readChar (Cutter.between, [])
  return tokens.reverse ++ (← state.finish)
where
  /-- Reads one character, with the tokens before it at hand, last first. -/
  readChar : Cutter × List Token → Char → Option (Cutter × List Token)
    | (state, tokens), c => do
      let (state, new) ← state.step c
      return (state, new.reverse ++ tokens)

end RecordSieve
