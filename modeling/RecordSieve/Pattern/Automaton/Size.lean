import RecordSieve.Pattern.Automaton.Chars
import RecordSieve.Pattern.Automaton.Literals
import RecordSieve.Pattern.Term

/-!
# The size of a pattern

Two automata are made for a pattern: one reads a text forward, the other one backward. Every
repetition that a bound asks for is a copy of its own. The pattern is small enough if neither
automaton exceeds the limit.
-/

namespace RecordSieve.Automaton

/-- The direction in which a text is read. -/
inductive Direction where
  /-- From the beginning to the end. -/
  | forward
  /-- From the end to the beginning. -/
  | backward

/-- The bytes of a literal in the order in which they are read. -/
def Direction.bytes (d : Direction) (text : List Char) : List Nat :=
  let bytes := text.flatMap fun c => Unicode.encode c.toNat
  match d with
  | forward => bytes
  | backward => bytes.reverse

/-- Makes the states for one character of a set. -/
def buildSet (d : Direction) (s : Unicode.Ranges) : Build Unit :=
  if s.isAscii then Build.grow 2 (arcSize * s.length)
  else
    match d with
    | .forward => forwardChar s
    | .backward => backwardChar s

/-! ### Repetitions

A part tells whether its end has ways out already, and `part` below makes one copy of it. -/

/-- Makes further copies, each behind the end of the one before. -/
def copiesBehind (part : Build Bool) : Nat → (forked : Bool) → Build Bool
  | 0, forked => pure forked
  | n + 1, forked => do
    let next ← part
    Build.leave forked
    copiesBehind part n next

/-- Makes some copies in a row. -/
def copies (part : Build Bool) : Nat → Build Bool
  | 0 => do
    Build.grow 1 0
    return false
  | n + 1 => do copiesBehind part n (← part)

/-- Makes further copies, each of which may be left out together with those behind it. -/
def optionalCopies (part : Build Bool) : Nat → (forked : Bool) → Build Unit
  | 0, forked => Build.leave forked
  | n + 1, forked => do
    Build.grow 1 (2 * forkSize)
    let next ← part
    Build.leave forked
    optionalCopies part n next

/-- Makes one copy that may be left out. -/
def optional (part : Build Bool) : Build Bool := do
  Build.grow 1 (2 * forkSize)
  let forked ← part
  Build.grow 1 0
  Build.leave forked
  return false

/-- Makes any number of copies: one that leads back to its own beginning. If it can match the empty
text, then what leads back stands behind it. -/
def star (part : Build Bool) (consumes : Bool) : Build Bool := do
  if consumes then
    Build.grow 1 forkSize
    Build.leave (← part)
    return true
  else
    Build.leave (← part)
    Build.grow 3 (4 * forkSize)
    return false

/-- Makes some copies, one at least, of which the last one leads back to its own beginning. -/
def plus (part : Build Bool) : (least : Nat) → Build Bool
  | 0 | 1 => do
    let forked ← part
    Build.grow 1 forkSize
    Build.leave forked
    return true
  | n + 2 => do
    let forked ← copies part (n + 1)
    let last ← part
    Build.grow 1 forkSize
    Build.leave forked
    Build.leave last
    return true

/-- Makes the copies that the bounds of a repetition ask for. `consumes` says that no match is
empty. -/
def repeated (part : Build Bool) (consumes : Bool) (least : Nat) : (most : Option Nat) → Build Bool
  | none => if least = 0 then star part consumes else plus part least
  | some most =>
    if least = 0 && most = 1 then optional part
    else if least = most then copies part least
    else do
      let forked ← copies part least
      Build.grow 1 0
      optionalCopies part (most - least) forked
      return false

/-! ### Terms -/

/-- The bytes of the alternatives, if all are literals. -/
def literals? (d : Direction) (ts : List Term) : Option (List (List Nat)) :=
  ts.mapM fun
    | .literal text => some (d.bytes text)
    | _ => none

mutual

/-- Makes the states for a term, and tells whether its end has ways out already. -/
def build (d : Direction) : Term → Build Bool
  | .empty => do
    Build.grow 1 0
    return false
  | .look _ => do
    Build.grow 1 0
    return false
  | .literal text => do
    Build.grow (d.bytes text).length 0
    return false
  | .set s _ => do
    buildSet d s
    return false
  | .capture t =>
    match d with
    | .forward => do
      Build.grow 1 0
      let forked ← build d t
      Build.grow 1 0
      Build.leave forked
      return false
    | .backward => build d t
  | .repetition t least most _ => repeated (build d t) (t.minLength?.any (0 < ·)) least most
  | .row ts =>
    match d with
    | .forward => rowForward ts none
    | .backward => do return (← rowBackward ts).getD false
  | .choice ts => do
    match literals? d ts with
    | some literals => Trie.build literals
    | none => branches d ts 0
    return false

/-- Makes the states for some terms in a row, behind the end of a part if there is one. -/
def rowForward : List Term → (forked : Option Bool) → Build Bool
  | [], forked => pure (forked.getD false)
  | t :: ts, forked => do
    let next ← build .forward t
    Build.leave (forked.getD false)
    rowForward ts (some next)

/-- Makes the states for some terms in a row from the last one to the first. -/
def rowBackward : List Term → Build (Option Bool)
  | [] => pure none
  | t :: ts => do
    let forked ← rowBackward ts
    let next ← build .backward t
    Build.leave (forked.getD false)
    return some next

/-- Makes the states for some alternatives; `made` is the number of those that were made already.
The state that leads to all of them and the one behind all of them follow the second one. -/
def branches (d : Direction) : List Term → (made : Nat) → Build Unit
  | [], _ => pure ()
  | t :: ts, made => do
    let forked ← build d t
    if made = 1 then Build.grow 2 0
    Build.fork
    Build.leave forked
    branches d ts (made + 1)

end

/-- Makes all states for a term. A search may begin anywhere, which takes states of its own, unless
every match begins where the reading begins. The whole forward is a group that keeps its match. -/
def buildAll (d : Direction) (t : Term) : Build Unit := do
  let anchored :=
    match d with
    | .forward => t.beginsAtStart
    | .backward => t.endsAtEnd
  if anchored then Build.grow 1 0 else Build.grow 3 (arcSize + 2 * forkSize)
  let forked ← build d (.capture t)
  Build.grow 1 0
  Build.leave forked

/-- The least number of literals that are found without an automaton, if a pattern is nothing but a
choice of them. -/
def literalsApart : Nat := 3000

/-- Is the term a choice of so many literals that it takes no automaton? -/
def needsNone : Term → Bool
  | .choice ts => (literals? .forward ts).isSome && literalsApart ≤ ts.length
  | _ => false

/-- Does an automaton for the term stay within the limit, in either direction? -/
def fits (t : Term) : Bool :=
  needsNone t ||
    (((buildAll .forward t).run {}).isSome && ((buildAll .backward t).run {}).isSome)

end RecordSieve.Automaton
