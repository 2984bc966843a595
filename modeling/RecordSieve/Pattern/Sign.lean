import RecordSieve.Number.Digits
import RecordSieve.Pattern.Expr
import RecordSieve.Unicode.Property

/-!
# The signs of a pattern

The smallest parts of a pattern: escapes, code points in hexadecimal digits, names of properties,
the bounds of a repetition. Each reader takes the text from where its part begins and gives back the part with
the text behind it, or the fault that makes the pattern invalid.

Under the flag `extended`, blanks and comments (from `#` to the end of the line) may stand between
the signs and mean nothing.
-/

namespace RecordSieve

open Unicode (Ranges)

/-- Why a text is no pattern. -/
inductive PatternError where
  /-- A backslash at the end. -/
  | danglingBackslash
  /-- An escape that means nothing; among them the references to groups. -/
  | unknownEscape
  /-- Hexadecimal digits that are missing, too few, or name no character. -/
  | badCodePoint
  /-- Braces behind `\b` that name no kind of boundary. -/
  | badBoundary
  /-- A property that is unknown, or whose name has no end. -/
  | badProperty
  /-- A sign that stands for more characters than the repertoire has. -/
  | outsideRepertoire
  /-- A repetition of nothing. -/
  | nothingToRepeat
  /-- Braces that do not hold the bounds of a repetition. -/
  | badBounds
  /-- Brackets without an end. -/
  | unclosedClass
  /-- A range whose ends are not characters or stand in the wrong order. -/
  | badRange
  /-- An assertion in brackets. -/
  | assertionInClass
  /-- A group without an end. -/
  | unclosedGroup
  /-- The end of a group that was not begun. -/
  | unopenedGroup
  /-- A group that looks ahead or behind. -/
  | lookAroundGroup
  /-- A group name that is empty, malformed or taken. -/
  | badGroupName
  /-- Flags that are unknown, repeated or missing. -/
  | badFlags
  /-- Too many levels of nesting. -/
  | tooDeep
  /-- Too large when the repetitions are written out. -/
  | tooLarge
  deriving DecidableEq, Repr

/-- What the flags of a pattern can change. -/
structure Flags where
  /-- Letters match regardless of case. -/
  insensitive : Bool := false
  /-- `^` and `$` also match at the ends of lines. -/
  multiline : Bool := false
  /-- `.` also matches line ends. -/
  dotAll : Bool := false
  /-- Blanks and comments mean nothing. -/
  extended : Bool := false
  /-- Carriage returns end lines, too. -/
  returns : Bool := false
  /-- Repetitions are lazy, and those that are marked lazy are not. -/
  swapped : Bool := false
  /-- The characters that the pattern knows. -/
  repertoire : Repertoire := .unicode

namespace Flags

/-- The set, with the case variants of its members if letter case is ignored. -/
def fold (flags : Flags) (s : Ranges) : Ranges :=
  if flags.insensitive then flags.repertoire.folded s else s

/-- The set or, on request, its complement, which must be in the repertoire. -/
def complIf (flags : Flags) (negated : Bool) (s : Ranges) : Except PatternError Ranges :=
  if negated then
    match flags.repertoire.compl? s with
    | some s => .ok s
    | none => .error .outsideRepertoire
  else .ok s

end Flags

namespace Pattern

/-- Is the character white space? -/
def isBlank (c : Char) : Bool := Unicode.whiteSpace.contains c.toNat

/-- The text behind the blanks and comments at its front; `comment` says that a comment is open. -/
def skipComments (comment : Bool) : List Char → List Char
  | [] => []
  | c :: text =>
    if comment then skipComments (c != '\n') text
    else if isBlank c then skipComments false text
    else if c = '#' then skipComments true text
    else c :: text

/-- The text behind what means nothing under the flags. -/
def skip (flags : Flags) (text : List Char) : List Char :=
  if flags.extended then skipComments false text else text

/-- The longest run of characters with a property, and the text behind it. What means nothing
under the flags may stand between and behind the characters. -/
def takeRun (flags : Flags) (p : Char → Bool) (comment : Bool) :
    List Char → List Char × List Char
  | [] => ([], [])
  | c :: text =>
    if comment then takeRun flags p (c != '\n') text
    else if flags.extended && isBlank c then takeRun flags p false text
    else if flags.extended && c == '#' then takeRun flags p true text
    else if p c then
      let (run, rest) := takeRun flags p false text
      (c :: run, rest)
    else ([], c :: text)

/-! ### Code points -/

/-- The character with a code point, if it is one of a character. -/
def charAt (n : Nat) : Except PatternError Char :=
  if n.isValidChar then .ok (Char.ofNat n) else .error .badCodePoint

/-- The value of exactly `count` hexadecimal digits, and the text behind them. -/
def takeHex (flags : Flags) : (count : Nat) → (value : Nat) → List Char →
    Except PatternError (Nat × List Char)
  | 0, value, text => .ok (value, text)
  | count + 1, value, text =>
    match text with
    | [] => .error .badCodePoint
    | c :: rest =>
      match Digits.hex? c with
      | some digit => takeHex flags count (16 * value + digit) (skip flags rest)
      | none => .error .badCodePoint

/-- A code point: `count` digits, or any number of digits in braces. -/
def readCodePoint (flags : Flags) (count : Nat) (text : List Char) :
    Except PatternError (Char × List Char) := do
  match skip flags text with
  | '{' :: text =>
    match takeRun flags Digits.isHex false text with
    | ([], _) => .error .badCodePoint
    | (digits, '}' :: rest) => return (← charAt (Digits.hexValue digits), skip flags rest)
    | _ => .error .badCodePoint
  | text =>
    let (value, rest) ← takeHex flags count 0 text
    return (← charAt value, rest)

/-- Two digits that stand for a byte must stand for one of the repertoire. -/
def checkByte (flags : Flags) (text : List Char) (c : Char) : Except PatternError Char :=
  if flags.repertoire.contains c.toNat || (skip flags text).head? == some '{' then .ok c
  else .error .outsideRepertoire

/-! ### Properties -/

/-- The text up to a closing brace, without what means nothing, and the text behind the brace. -/
def takeBraced (flags : Flags) (text : List Char) : Except PatternError (List Char × List Char) :=
  match takeRun flags (· != '}') false text with
  | (name, '}' :: rest) => .ok (name, rest)
  | _ => .error .badProperty

/-- The characters with a property, whose name follows: a single letter, or some text in braces. -/
def readProperty (flags : Flags) (text : List Char) : Except PatternError (Ranges × List Char) := do
  let (name, rest) ←
    match skip flags text with
    | [] => .error .badProperty
    | '{' :: rest => takeBraced flags rest
    | '\\' :: _ => .error .badProperty
    | c :: rest => .ok ([c], skip flags rest)
  if flags.repertoire = .ascii then .error .outsideRepertoire
  else
    match Ranges.ofProperty? name with
    | some s => return (flags.fold s, rest)
    | none => .error .badProperty

/-! ### Escapes -/

/-- What one sign stands for. -/
inductive Sign where
  /-- A character. -/
  | char (c : Char)
  /-- One character of a set. -/
  | set (s : Ranges)
  /-- An assertion. -/
  | look (a : Look)

/-- The kind of boundary that stands in braces behind `\b`, and the text behind it. Braces that
hold no letters are left where they are, for they may be the bounds of a repetition. -/
def readBoundary (flags : Flags) (text : List Char) : Except PatternError (Look × List Char) :=
  let r := flags.repertoire
  match text with
  | '{' :: inside =>
    match takeRun flags (fun c => c.isAlpha || c == '-') false inside with
    | ([], []) => .error .badBoundary
    | ([], _) => .ok (.wordBoundary r, text)
    | (name, '}' :: rest) =>
      match String.ofList name with
      | "start" => .ok (.wordStart r, rest)
      | "end" => .ok (.wordEnd r, rest)
      | "start-half" => .ok (.wordStartHalf r, rest)
      | "end-half" => .ok (.wordEndHalf r, rest)
      | _ => .error .badBoundary
    | _ => .error .badBoundary
  | _ => .ok (.wordBoundary r, text)

/-- A sign that stands for a set, or for its complement. -/
def setSign (flags : Flags) (negated : Bool) (s : Ranges) (rest : List Char) :
    Except PatternError (Sign × List Char) := do
  return (.set (← flags.complIf negated s), rest)

/-- The sign behind a backslash. ASCII characters other than letters and digits stand for
themselves. -/
def readEscape (flags : Flags) (text : List Char) : Except PatternError (Sign × List Char) := do
  let r := flags.repertoire
  match text with
  | [] => .error .danglingBackslash
  | c :: rest =>
    match c with
    | 'x' =>
      let (c, behind) ← readCodePoint flags 2 rest
      return (.char (← checkByte flags rest c), behind)
    | 'u' => let (c, rest) ← readCodePoint flags 4 rest; return (.char c, rest)
    | 'U' => let (c, rest) ← readCodePoint flags 8 rest; return (.char c, rest)
    | 'p' => let (s, rest) ← readProperty flags rest; setSign flags false s rest
    | 'P' => let (s, rest) ← readProperty flags rest; setSign flags true s rest
    | 'd' => setSign flags false r.digit rest
    | 's' => setSign flags false r.blank rest
    | 'w' => setSign flags false r.word rest
    | 'D' => setSign flags true r.digit rest
    | 'S' => setSign flags true r.blank rest
    | 'W' => setSign flags true r.word rest
    | 'a' => return (.char '\x07', rest)
    | 'f' => return (.char '\x0C', rest)
    | 't' => return (.char '\t', rest)
    | 'n' => return (.char '\n', rest)
    | 'r' => return (.char '\r', rest)
    | 'v' => return (.char '\x0B', rest)
    | 'A' => return (.look .textStart, rest)
    | 'z' => return (.look .textEnd, rest)
    | 'b' => let (a, rest) ← readBoundary flags rest; return (.look a, rest)
    | 'B' => return (.look (.notWordBoundary r), rest)
    | '<' => return (.look (.wordStart r), rest)
    | '>' => return (.look (.wordEnd r), rest)
    | _ =>
      if c.toNat < 128 && !c.isAlphanum then return (.char c, rest) else .error .unknownEscape

/-! ### Bounds of repetitions -/

/-- A bound of a repetition, with blanks around it; it must fit 32 bits. -/
def readBound (flags : Flags) (text : List Char) : Except PatternError (Nat × List Char) :=
  let (digits, rest) := takeRun flags Char.isDigit false (text.dropWhile isBlank)
  if digits.isEmpty || UInt32.size ≤ Digits.value digits then .error .badBounds
  else .ok (Digits.value digits, rest.dropWhile isBlank)

/-- The bounds behind an opening brace: `{n}`, `{n,}` or `{n,m}` with `n ≤ m`. -/
def readBounds (flags : Flags) (text : List Char) :
    Except PatternError ((Nat × Option Nat) × List Char) := do
  match ← readBound flags (skip flags text) with
  | (least, '}' :: rest) => return ((least, some least), rest)
  | (least, ',' :: rest) =>
    match skip flags rest with
    | '}' :: rest => return ((least, none), rest)
    | rest =>
      match ← readBound flags rest with
      | (most, '}' :: rest) =>
        if least ≤ most then return ((least, some most), rest) else .error .badBounds
      | _ => .error .badBounds
  | _ => .error .badBounds

end Pattern

end RecordSieve
