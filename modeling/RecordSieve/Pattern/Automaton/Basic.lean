/-!
# The size of automata

A pattern is searched for by an automaton over bytes, whose states are made one after the other
and numbered in this order. Nothing but its size is of interest here: every state takes the same
number of bytes, and more for each way out of it when there may be many. A pattern is refused if an
automaton for it would exceed `sizeLimit`.

A part of an automaton is a `Build`: an action that makes the states of the part, and that comes to
nothing as soon as the limit is exceeded.
-/

namespace RecordSieve.Automaton

/-- What was made so far. -/
structure Tally where
  /-- The number of states. -/
  states : Nat := 0
  /-- The bytes for the ways out of states, beyond those that each state takes. -/
  extra : Nat := 0

/-- The bytes that every state takes. -/
def stateSize : Nat := 32

/-- The bytes for a way out on a range of bytes. -/
def arcSize : Nat := 8

/-- The bytes for a way out that reads nothing. -/
def forkSize : Nat := 4

/-- The most bytes that an automaton may take. -/
def sizeLimit : Nat := 10 <<< 20

/-- The bytes that were made so far. -/
def Tally.size (t : Tally) : Nat := stateSize * t.states + t.extra

/-- The making of a part of an automaton, within the limit. -/
abbrev Build := StateT Tally Option

namespace Build

/-- Makes some states, with some bytes for their ways out. -/
def grow (states extra : Nat) : Build Unit := fun t =>
  let t : Tally := ⟨t.states + states, t.extra + extra⟩
  if sizeLimit < t.size then none else some ((), t)

/-- Makes one state, and gives its number. -/
def state (extra : Nat) : Build Nat := do
  let t ← get
  grow 1 extra
  return t.states

/-- Adds a way out that reads nothing. -/
def fork : Build Unit := grow 0 forkSize

/-- Goes on from the end of a part. An end that has ways out already gets one more; any other end
leads nowhere yet, and is given its way at no cost. -/
def leave (forked : Bool) : Build Unit := if forked then fork else pure ()

end Build

end RecordSieve.Automaton
