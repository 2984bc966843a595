import RecordSieve.Criterion.Matching
import RecordSieve.Log

/-!
# Collections

A collection holds records in order. Sieving it evaluates criteria against one record after the
other and keeps the *hits*, the records that satisfy them, each with its position. The first
record that cannot be decided stops the sieving and takes all hits with it.

The queries differ in what they do with the hits and in how far they go: `sieve`, `find` and
`count` evaluate every record, while `first`, `position` and `any` stop at the first hit. Each
query logs the dispatches of the records that it evaluates; those that evaluate every record also
log a summary.
-/

namespace RecordSieve

/-- Records in order. -/
structure Collection where
  /-- The records. -/
  records : List Value

/-- A record that satisfies criteria. -/
structure Hit where
  /-- The position of the record in its collection. -/
  index : Nat
  /-- The record. -/
  record : Value

/-- All hits, or what stopped the sieving. -/
abbrev Outcome := Except ScanError (List Hit)

namespace Collection

/-- The number of records. -/
def size (c : Collection) : Nat := c.records.length

/-- Are there no records? -/
def isEmpty (c : Collection) : Bool := c.records.isEmpty

/-- The hits among records that stand at `index` and behind. -/
def hitsFrom (criteria : Criteria) (index : Nat) : List Value → Logged Outcome
  | [] => ⟨.ok [], []⟩
  | r :: rs =>
    let e := criteria.evaluate (some r)
    match e.verdict with
    | .error cause => ⟨.error ⟨index, cause⟩, e.log⟩
    | .yes => ((hitsFrom criteria (index + 1) rs).map (·.map (⟨index, r⟩ :: ·))).after e.log
    | .no => (hitsFrom criteria (index + 1) rs).after e.log

/-- The position of the first hit among records that stand at `index` and behind. -/
def positionFrom (criteria : Criteria) (index : Nat) :
    List Value → Logged (Except ScanError (Option Nat))
  | [] => ⟨.ok none, []⟩
  | r :: rs =>
    let e := criteria.evaluate (some r)
    match e.verdict with
    | .error cause => ⟨.error ⟨index, cause⟩, e.log⟩
    | .yes => ⟨.ok (some index), e.log⟩
    | .no => (positionFrom criteria (index + 1) rs).after e.log

/-! ### Queries that evaluate every record -/

/-- All hits. -/
def sieve (c : Collection) (criteria : Criteria) : Logged Outcome :=
  let scanned := hitsFrom criteria 0 c.records
  match scanned.result with
  | .ok hits => scanned.before [.scanned c.size hits.length]
  | .error _ => scanned

/-- All hits, or none where the sieving was stopped; the error is only logged. -/
def find (c : Collection) (criteria : Criteria) : Logged (Option (List Hit)) :=
  let scanned := c.sieve criteria
  match scanned.result with
  | .ok hits => ⟨some hits, scanned.log⟩
  | .error e => ⟨none, scanned.log ++ [.findFailed e]⟩

/-- The number of hits. -/
def count (c : Collection) (criteria : Criteria) : Logged (Except ScanError Nat) :=
  (c.sieve criteria).map (·.map List.length)

/-! ### Queries that stop at the first hit -/

/-- The position of the first hit. -/
def position (c : Collection) (criteria : Criteria) : Logged (Except ScanError (Option Nat)) :=
  positionFrom criteria 0 c.records

/-- The record at a position, as a hit. -/
def hitAt (c : Collection) (index : Nat) : Option Hit := c.records[index]?.map (⟨index, ·⟩)

/-- The first hit: the record at its position. -/
def first (c : Collection) (criteria : Criteria) : Logged (Except ScanError (Option Hit)) :=
  (c.position criteria).map (·.map (·.bind c.hitAt))

/-- Is there a hit? -/
def any (c : Collection) (criteria : Criteria) : Logged (Except ScanError Bool) :=
  (c.position criteria).map (·.map Option.isSome)

end Collection

end RecordSieve
