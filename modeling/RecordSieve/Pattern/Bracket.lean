import RecordSieve.Pattern.Sign

/-!
# Classes in brackets

A class lists characters, ranges, escapes, named ASCII classes and further classes. Between such
lists may stand `&&` (what both have in common), `--` (the first without the second) and `~~`
(what lies in one of them only); they bind from the left and bind weaker than listing.

A class is read with the brackets that are still open at hand, innermost first. Where letter case
is ignored, the case variants are added before a class is negated and before two lists are
combined.
-/

namespace RecordSieve.Pattern

open Unicode (Ranges)

/-- The set that a part of a class denotes, and how deep the part is nested. -/
structure ClassPart where
  /-- The set. -/
  set : Ranges
  /-- The depth of nesting. -/
  depth : Nat

/-- A bracket that is still open. -/
structure OpenBracket where
  /-- Is the class negated? -/
  negated : Bool
  /-- What stands before the list being read: a part, and how it is combined with the list. -/
  left : Option (ClassPart × (Ranges → Ranges → Ranges))
  /-- The list being read, last part first. -/
  parts : List ClassPart

namespace OpenBracket

/-- Adds a part to the list being read. -/
def add (b : OpenBracket) (part : ClassPart) : OpenBracket := { b with parts := part :: b.parts }

/-- The list being read, as one part. -/
def listed (b : OpenBracket) : ClassPart :=
  let set : Ranges := .unions (b.parts.map (·.set)).reverse
  match b.parts with
  | [] => ⟨set, 0⟩
  | [part] => ⟨set, part.depth⟩
  | parts => ⟨set, parts.foldl (fun d p => max d p.depth) 0 + 1⟩

/-- All that was read between the brackets. -/
def content (flags : Flags) (b : OpenBracket) : ClassPart :=
  match b.left with
  | none => b.listed
  | some (left, combine) =>
    ⟨combine (flags.fold left.set) (flags.fold b.listed.set), max left.depth b.listed.depth + 1⟩

/-- The class that ends here. -/
def close (flags : Flags) (b : OpenBracket) : Except PatternError ClassPart := do
  let inside := b.content flags
  return ⟨← flags.complIf b.negated (flags.fold inside.set), inside.depth + 1⟩

/-- Ends the list being read and begins the one that it is combined with. -/
def combine (flags : Flags) (operation : Ranges → Ranges → Ranges) (b : OpenBracket) :
    OpenBracket :=
  { b with left := some (b.content flags, operation), parts := [] }

end OpenBracket

/-- The start of a class behind its opening bracket: a negation, then hyphens, or else a closing
bracket, that stand for themselves. -/
def openBracket (flags : Flags) (text : List Char) : OpenBracket × List Char :=
  let text := skip flags text
  let (negated, text) :=
    match text with
    | '^' :: rest => (true, skip flags rest)
    | _ => (false, text)
  match takeRun flags (· == '-') false text with
  | ([], ']' :: rest) => (⟨negated, none, [⟨.single ']'.toNat, 0⟩]⟩, skip flags rest)
  | (hyphens, rest) => (⟨negated, none, hyphens.map fun c => ⟨.single c.toNat, 0⟩⟩, rest)

/-- A named ASCII class behind its opening bracket, as in `[:alpha:]`, and whether it is negated, as
in `[:^alpha:]`. -/
def namedClass? (text : List Char) : Option ((Ranges × Bool) × List Char) :=
  match text with
  | ':' :: text =>
    let (negated, text) :=
      match text with
      | '^' :: rest => (true, rest)
      | _ => (false, text)
    match text.dropWhile (· != ':') with
    | ':' :: ']' :: rest =>
      (Ranges.ofClassName? (String.ofList (text.takeWhile (· != ':')))).map fun s =>
        ((s, negated), rest)
    | _ => none
  | _ => none

/-- One sign of a class: an escape, or a character for itself. -/
def classSign (flags : Flags) (text : List Char) : Except PatternError (Sign × List Char) :=
  match text with
  | [] => .error .unclosedClass
  | '\\' :: rest => readEscape flags rest
  | c :: rest => .ok (.char c, rest)

/-- The range from one character to another, both in the repertoire. -/
def between (flags : Flags) (first last : Char) : Except PatternError Ranges :=
  if last < first then .error .badRange
  else if flags.repertoire.contains last.toNat then .ok [(first.toNat, last.toNat)]
  else .error .outsideRepertoire

/-- The set of one sign of a class. -/
def signSet (flags : Flags) : Sign → Except PatternError Ranges
  | .char c => between flags c c
  | .set s => .ok s
  | .look _ => .error .assertionInClass

/-- The character behind a hyphen in a class, if there is one. Of a comment that stands between,
only the sign that begins it is passed over, with the blanks around the sign. -/
def behindHyphen? (flags : Flags) (text : List Char) : Option Char :=
  if flags.extended then
    let text := text.dropWhile isBlank
    let text :=
      match text with
      | '#' :: rest => rest.dropWhile isBlank
      | _ => text
    text.head?
  else text.head?

/-- A range of a class, or a single sign. A hyphen makes no range if a closing bracket or a second
hyphen is found behind it. -/
def readRange (flags : Flags) (text : List Char) : Except PatternError (Ranges × List Char) := do
  let (first, rest) ← classSign flags text
  let rest := skip flags rest
  match rest with
  | '-' :: behind =>
    let next := behindHyphen? flags behind
    if next == some ']' || next == some '-' then return (← signSet flags first, rest)
    else
      let (last, rest) ← classSign flags (skip flags behind)
      match first, last with
      | .char first, .char last => return (← between flags first last, rest)
      | _, _ => .error .badRange
  | _ => return (← signSet flags first, rest)

/-- Reads a class to its end. Each round reads at least one character, so the length of the text
is fuel enough. -/
def readBrackets (flags : Flags) : (fuel : Nat) → (innermost : OpenBracket) →
    (enclosing : List OpenBracket) → List Char → Except PatternError (ClassPart × List Char)
  | 0, _, _, _ => .error .unclosedClass
  | fuel + 1, b, enclosing, text => do
    match skip flags text with
    | [] => .error .unclosedClass
    | '[' :: rest =>
      match namedClass? rest with
      | some ((s, negated), rest) =>
        let s ← flags.complIf negated (flags.fold s)
        readBrackets flags fuel (b.add ⟨s, 0⟩) enclosing rest
      | none =>
        let (inner, rest) := openBracket flags rest
        readBrackets flags fuel inner (b :: enclosing) rest
    | ']' :: rest =>
      match enclosing with
      | [] => return (← b.close flags, rest)
      | outer :: enclosing =>
        readBrackets flags fuel (outer.add (← b.close flags)) enclosing rest
    | '&' :: '&' :: rest => readBrackets flags fuel (b.combine flags .inter) enclosing rest
    | '-' :: '-' :: rest => readBrackets flags fuel (b.combine flags .diff) enclosing rest
    | '~' :: '~' :: rest => readBrackets flags fuel (b.combine flags .symmDiff) enclosing rest
    | text =>
      let (s, rest) ← readRange flags text
      readBrackets flags fuel (b.add ⟨s, 0⟩) enclosing rest

/-- The class behind an opening bracket. -/
def readClass (flags : Flags) (text : List Char) : Except PatternError (ClassPart × List Char) :=
  let (b, rest) := openBracket flags text
  readBrackets flags (rest.length + 1) b [] rest

end RecordSieve.Pattern
