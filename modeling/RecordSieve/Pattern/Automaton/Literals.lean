import RecordSieve.Pattern.Automaton.Basic

/-!
# Automata for literals

If all alternatives of a choice are literals, those that begin with the same bytes share the
states for these. The order of the alternatives is kept: where a literal ends, what was shared so
far is closed, and literals that come later share states only with one another.
-/

namespace RecordSieve.Automaton

/-- The literals of a choice by their first bytes. A node is a list of branches, parted into
chunks; the innermost constructor of a node stands for its newest chunk, in which the bytes
ascend. -/
inductive Trie where
  /-- The end of the node. -/
  | nil
  /-- A branch: a byte, what comes behind it, and the rest of the node. -/
  | branch (byte : Nat) (child rest : Trie)
  /-- A literal ended at the node, and the rest of it was closed. -/
  | closed (rest : Trie)

namespace Trie

/-- Changes the branch of a byte in the newest chunk of a node. -/
def update (byte : Nat) (change : Trie → Trie) : Trie → Trie
  | branch other child rest =>
    if byte = other then branch other (change child) rest
    else if byte < other then branch byte (change nil) (branch other child rest)
    else branch other child (update byte change rest)
  | node => branch byte (change nil) node

/-- Adds a literal, given by its bytes. A second literal that ends where a first one ended and
none goes on adds nothing. -/
def add : (literal : List Nat) → Trie → Trie
  | [], closed nil => closed nil
  | [], node => closed node
  | byte :: literal, node => node.update byte (add literal)

/-- Does a node have branches? -/
def hasBranches : Trie → Bool
  | nil => false
  | branch _ _ _ => true
  | closed rest => rest.hasBranches

/-- What the states for a node take. -/
structure Cost where
  /-- The number of states behind the node and for its chunks. -/
  states : Nat
  /-- The bytes for the ways out of these states. -/
  extra : Nat
  /-- The ways out of the state of the node itself. -/
  ways : Nat

/-- What the states for a node take. The state of the node leads to one state for each chunk with
branches, and where chunks were closed to the end of a literal. `size` is the number of branches
of the newest chunk that were passed already. -/
def cost (size : Nat) : Trie → Cost
  | nil => chunk
  | closed rest =>
    let others := rest.cost 0
    ⟨chunk.states + others.states, chunk.extra + others.extra, chunk.ways + others.ways + 1⟩
  | branch _ child rest =>
    let others := rest.cost (size + 1)
    if child.hasBranches then
      let inner := child.cost 0
      ⟨inner.states + 1 + others.states, inner.extra + forkSize * inner.ways + others.extra,
        others.ways⟩
    else others
where
  /-- What the state for a chunk takes. -/
  chunk : Cost := ⟨min size 1, if size ≤ 1 then 0 else arcSize * size, min size 1⟩

/-- Makes the states for some literals, given by their bytes. -/
def build (literals : List (List Nat)) : Build Unit := do
  let cost := (literals.foldl (fun node literal => node.add literal) nil).cost 0
  Build.grow (cost.states + 2) (cost.extra + forkSize * cost.ways)

end Trie

end RecordSieve.Automaton
