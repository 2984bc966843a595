import RecordSieve.Pattern.Automaton.Basic
import RecordSieve.Unicode.Encoding
import Std.Data.HashMap

/-!
# Automata for one character

An automaton reads a character byte by byte. Characters that begin with the same bytes share the
states for these when the bytes are read forward; and what is to be read behind them is shared,
too, if such a state was made a short while ago. The latter is looked up in a table of a fixed
number of slots: a state goes to the slot that the hash of its description names, and takes the
place of the one that was there.
-/

namespace RecordSieve.Automaton

open Unicode (ByteRange Ranges)

/-- The hash of some numbers, FNV-1a with a whole number in place of each byte. -/
def hash (numbers : List Nat) : Nat :=
  (numbers.foldl (fun h n => (h ^^^ UInt64.ofNat n) * 1099511628211)
    (14695981039346656037 : UInt64)).toNat

/-- States that were made a short while ago, with their descriptions. -/
structure Recent where
  /-- The number of slots. -/
  slots : Nat
  /-- The slots that are taken. -/
  table : Std.HashMap Nat (List Nat × Nat) := {}

namespace Recent

/-- The state of a description: one that was made, or else one that is made now. -/
def findOrMake (make : Build Nat) (description : List Nat) (r : Recent) : Build (Nat × Recent) := do
  let slot := hash description % r.slots
  match r.table[slot]? with
  | some (known, state) => if known = description then return (state, r) else renew slot
  | none => renew slot
where
  /-- Makes the state and keeps it in its slot. -/
  renew (slot : Nat) : Build (Nat × Recent) := do
    let state ← make
    return (state, { r with table := r.table.insert slot (description, state) })

end Recent

/-! ### Reading forward -/

/-- Makes the states that read some sequences of byte ranges, of at most `depth` bytes, and then go
on at `target`. The number of the first state is given back; its ways out, one for each group of
sequences that begin with the same range, are described by the ends of the range and the state
behind it. -/
def forwardState (target : Nat) : (depth : Nat) → List (List ByteRange) → Recent →
    Build (Nat × Recent)
  | 0, _, r => pure (target, r)
  | depth + 1, sequences, r => do
    let groups := sequences.splitBy fun s t => s.head? == t.head?
    let (ways, r) ← groups.foldlM
      (fun (ways, r) group => do
        let (next, r) ←
          if group.all (·.length == 1) then pure (target, r)
          else forwardState target depth (group.map List.tail) r
        let (first, last) := group.head?.bind List.head? |>.getD (0, 0)
        return (ways ++ [first, last, next], r))
      ([], r)
    r.findOrMake (Build.state (arcSize * groups.length)) ways

/-- The slots for states that read forward. -/
def forwardSlots : Nat := 10000

/-- Makes the states that read one character of a set forward. -/
def forwardChar (s : Ranges) : Build Unit := do
  let target ← Build.state 0
  let _ ← forwardState target 4 s.byteSequences { slots := forwardSlots }

/-! ### Reading backward -/

/-- Makes the states that read a sequence of byte ranges from its last byte to its first. They are
made in the opposite order, each in front of the state `next`. -/
def backwardStates (next : Nat) : List ByteRange → Recent → Build Recent
  | [], r => pure r
  | (first, last) :: ranges, r => do
    let (next, r) ← r.findOrMake (Build.state 0) [next, first, last]
    backwardStates next ranges r

/-- Makes the states for some sequences, one way out of the first state for each. -/
def backwardWays (next : Nat) : List (List ByteRange) → Recent → Build Unit
  | [], _ => pure ()
  | s :: sequences, r => do
    let r ← backwardStates next s r
    Build.fork
    backwardWays next sequences r

/-- The slots for states that read backward. -/
def backwardSlots : Nat := 1000

/-- Makes the states that read one character of a set backward. -/
def backwardChar (s : Ranges) : Build Unit := do
  let _ ← Build.state 0
  let next ← Build.state 0
  backwardWays next s.byteSequences { slots := backwardSlots }

end RecordSieve.Automaton
