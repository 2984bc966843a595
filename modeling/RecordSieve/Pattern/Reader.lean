import RecordSieve.Pattern.Automaton.Size
import RecordSieve.Pattern.Bracket
import RecordSieve.Unicode.Addition

/-!
# Reading patterns

A pattern is read from left to right with the groups that are still open at hand, innermost
first. Each open group (and the pattern as a whole) is a `Scope`: the alternatives that are
finished, the row being read, and the flags in force. Flags that are changed inside a group are
forgotten when it ends, because the enclosing scope has kept its own.
-/

namespace RecordSieve.Pattern

open Unicode (Ranges)

/-- A group that is still open, or the whole pattern. -/
structure Scope where
  /-- The flags in force. -/
  flags : Flags
  /-- Does the group keep what it matches? -/
  keeps : Bool
  /-- The finished alternatives, last first. -/
  finished : List Expr
  /-- The row being read, last expression first. -/
  row : List Expr

namespace Scope

/-- The scope with one more expression in the row. -/
def add (s : Scope) (e : Expr) : Scope := { s with row := e :: s.row }

/-- Ends the row being read; another alternative follows. -/
def branch (s : Scope) : Scope :=
  { s with finished := .ofRow s.row.reverse :: s.finished, row := [] }

/-- All that was read in the scope. -/
def close (s : Scope) : Expr := .ofChoice s.branch.finished.reverse

/-- Repeats the last expression of the row; there must be one, and a change of flags is none. -/
def repeatLast (s : Scope) (least : Nat) (most : Option Nat) (lazy : Bool) :
    Except PatternError Scope :=
  match s.row with
  | [] | .empty :: _ => .error .nothingToRepeat
  | e :: row => .ok { s with row := .repetition e least most (lazy != s.flags.swapped) :: row }

end Scope

/-- How far the reading of a pattern has got. -/
structure Progress where
  /-- The innermost scope. -/
  scope : Scope
  /-- The scopes around it, innermost first. -/
  enclosing : List Scope
  /-- The names of groups so far. -/
  names : List (List Char)

namespace Progress

/-- Adds an expression to the innermost scope. -/
def add (p : Progress) (e : Expr) : Progress := { p with scope := p.scope.add e }

/-- Opens a group in which some flags are in force. -/
def openGroup (p : Progress) (flags : Flags) (keeps : Bool) : Progress :=
  { p with scope := ⟨flags, keeps, [], []⟩, enclosing := p.scope :: p.enclosing }

end Progress

/-! ### Flags -/

/-- The flags with one of them, named by its letter, set or cleared. -/
def setFlag (flags : Flags) (letter : Char) (value : Bool) : Except PatternError Flags :=
  match letter with
  | 'i' => .ok { flags with insensitive := value }
  | 'm' => .ok { flags with multiline := value }
  | 's' => .ok { flags with dotAll := value }
  | 'x' => .ok { flags with extended := value }
  | 'R' => .ok { flags with returns := value }
  | 'U' => .ok { flags with swapped := value }
  | 'u' => .ok { flags with repertoire := if value then .unicode else .ascii }
  | _ => .error .badFlags

/-- Reads flag letters up to a colon or a closing parenthesis, which is given back with them: the
letters before a hyphen are set and those behind it cleared. No letter may occur twice, and one
must follow the hyphen. -/
def readFlags (flags : Flags) (value : Bool) (seen : List Char) :
    List Char → Except PatternError (Flags × List Char × List Char)
  | [] => .error .badFlags
  | c :: text =>
    if c = ':' ∨ c = ')' then
      if seen.head? == some '-' then .error .badFlags else .ok (flags, seen, c :: text)
    else if seen.contains c then .error .badFlags
    else if c = '-' then readFlags flags false (c :: seen) text
    else do
      let flags ← setFlag flags c value
      readFlags flags value (c :: seen) text

/-! ### Groups -/

/-- Is the character alphabetic? In names also those count that were added to the standard later. -/
def isAlphabetic (c : Char) : Bool :=
  Unicode.alphabetic.contains c.toNat || Unicode.addedAlphabetic.contains c.toNat

/-- Does the character stand for a number? Here those that were added later count, too. -/
def isNumeric (c : Char) : Bool :=
  Unicode.number.contains c.toNat || Unicode.addedNumber.contains c.toNat

/-- May a character begin the name of a group? -/
def beginsName (c : Char) : Bool := c == '_' || isAlphabetic c

/-- May a character stand in the name of a group behind the first? -/
def continuesName (c : Char) : Bool :=
  beginsName c || isNumeric c || c == '.' || c == '[' || c == ']'

/-- Opens a group with a name; the text begins with the name. -/
def readNamed (p : Progress) (text : List Char) : Except PatternError (Progress × List Char) :=
  match text.takeWhile (· != '>'), text.dropWhile (· != '>') with
  | first :: others, _ :: rest =>
    if beginsName first && others.all continuesName && !p.names.contains (first :: others) then
      .ok ({ p.openGroup p.scope.flags true with names := (first :: others) :: p.names }, rest)
    else .error .badGroupName
  | _, _ => .error .badGroupName

/-- What an opening parenthesis begins: a group, with a name or flags of its own or without, or a
change of flags, which is not allowed to be empty. -/
def readOpening (p : Progress) (text : List Char) : Except PatternError (Progress × List Char) := do
  match skip p.scope.flags text with
  | '?' :: '=' :: _ => .error .lookAroundGroup
  | '?' :: '!' :: _ => .error .lookAroundGroup
  | '?' :: '<' :: '=' :: _ => .error .lookAroundGroup
  | '?' :: '<' :: '!' :: _ => .error .lookAroundGroup
  | '?' :: 'P' :: '<' :: rest => readNamed p rest
  | '?' :: '<' :: rest => readNamed p rest
  | '?' :: rest =>
    let (flags, letters, rest) ← readFlags p.scope.flags true [] rest
    match letters, rest with
    | _, ':' :: rest => return (p.openGroup flags false, rest)
    | [], _ => .error .nothingToRepeat
    | _, rest =>
      return ({ p with scope := { p.scope.add .empty with flags } }, rest.drop 1)
  | rest => return (p.openGroup p.scope.flags true, rest)

/-- Ends the innermost group. -/
def readClosing (p : Progress) : Except PatternError Progress :=
  match p.enclosing with
  | [] => .error .unopenedGroup
  | outer :: enclosing =>
    .ok { p with scope := outer.add (.group p.scope.close p.scope.keeps), enclosing }

/-! ### The signs -/

/-- The expression of one character. A character beyond the repertoire stands for itself only. -/
def charExpr (flags : Flags) (c : Char) : Expr :=
  .chars (flags.fold (.single c.toNat)) flags.repertoire 0

/-- The expression of a dot: any character that does not end a line, or any character at all. -/
def dotExpr (flags : Flags) : Except PatternError Expr := do
  let excluded : Ranges :=
    if flags.dotAll then []
    else if flags.returns then [(0x0A, 0x0A), (0x0D, 0x0D)]
    else [(0x0A, 0x0A)]
  return .chars (← flags.complIf true excluded) flags.repertoire 0

/-- The assertion that `^` stands for. -/
def startLook (flags : Flags) : Look :=
  if !flags.multiline then .textStart
  else if flags.returns then .lineStartReturn else .lineStart

/-- The assertion that `$` stands for. -/
def endLook (flags : Flags) : Look :=
  if !flags.multiline then .textEnd
  else if flags.returns then .lineEndReturn else .lineEnd

/-- Repeats the last expression; a question mark that follows makes the repetition lazy. -/
def readRepetition (p : Progress) (least : Nat) (most : Option Nat) (text : List Char) :
    Except PatternError (Progress × List Char) := do
  match text with
  | '?' :: rest => return ({ p with scope := ← p.scope.repeatLast least most true }, rest)
  | rest => return ({ p with scope := ← p.scope.repeatLast least most false }, rest)

/-- Reads one expression, or one sign of punctuation. -/
def readNext (p : Progress) (c : Char) (rest : List Char) :
    Except PatternError (Progress × List Char) := do
  let flags := p.scope.flags
  match c with
  | '(' => readOpening p rest
  | ')' => return (← readClosing p, rest)
  | '|' => return ({ p with scope := p.scope.branch }, rest)
  | '[' =>
    let (part, rest) ← readClass flags rest
    return (p.add (.chars part.set flags.repertoire part.depth), rest)
  | '?' => readRepetition p 0 (some 1) rest
  | '*' => readRepetition p 0 none rest
  | '+' => readRepetition p 1 none rest
  | '{' =>
    let ((least, most), rest) ← readBounds flags rest
    readRepetition p least most (skip flags rest)
  | '.' => return (p.add (← dotExpr flags), rest)
  | '^' => return (p.add (.look (startLook flags)), rest)
  | '$' => return (p.add (.look (endLook flags)), rest)
  | '\\' =>
    match ← readEscape flags rest with
    | (.char c, rest) => return (p.add (charExpr flags c), rest)
    | (.set s, rest) => return (p.add (.chars s flags.repertoire 0), rest)
    | (.look a, rest) => return (p.add (.look a), rest)
  | c => return (p.add (charExpr flags c), rest)

/-- Reads a pattern to its end. Each round reads at least one character, so the length of the
text is fuel enough. -/
def readAll : (fuel : Nat) → Progress → List Char → Except PatternError Expr
  | 0, _, _ => .error .tooLarge
  | fuel + 1, p, text => do
    match skip p.scope.flags text with
    | [] =>
      match p.enclosing with
      | [] => return p.scope.close
      | _ => .error .unclosedGroup
    | c :: rest =>
      let (p, rest) ← readNext p c rest
      readAll fuel p rest

/-- The most levels of nesting that a pattern may have. -/
def depthLimit : Nat := 250

/-- The term that a text is written for. -/
def readTerm (text : List Char) : Except PatternError Term := do
  let e ← readAll (text.length + 1) ⟨⟨{}, false, [], []⟩, [], []⟩ text
  if depthLimit < e.depth then .error .tooDeep
  else if Automaton.fits e.toTerm then return e.toTerm
  else .error .tooLarge

end RecordSieve.Pattern
