/-!
# Ordered fields

The fields of a record and the entries of criteria are *ordered*: a key that is written for the
first time goes to the end, and a key that is written again keeps its place and takes the new
value. `Fields` keeps them as a list of pairs in that order, and `Fields.put` is the only way in
which this library adds one, so no key occurs twice in what it builds.

Reading is `List.lookup`. The lemmas below say what `put` does to the two views of fields, the
look-up and the list of keys.
-/

namespace RecordSieve

/-- Values by key, in the order in which the keys were first written. -/
abbrev Fields (α : Type) := List (String × α)

namespace Fields

variable {α : Type}

/-- The keys, in order. -/
def keys (fields : Fields α) : List String := fields.map Prod.fst

/-- Writes `x` at `key`: in place if the key is there, at the end if it is not. -/
def put (key : String) (x : α) : Fields α → Fields α
  | [] => [(key, x)]
  | (k, y) :: rest => if k = key then (key, x) :: rest else (k, y) :: put key x rest

/-- Writes the pairs one after the other. -/
def ofPairs (pairs : List (String × α)) : Fields α :=
  pairs.foldl (fun fields (key, x) => put key x fields) []

@[simp] theorem keys_nil : keys ([] : Fields α) = [] := rfl

@[simp] theorem keys_cons (k : String) (x : α) (rest : Fields α) :
    keys ((k, x) :: rest) = k :: keys rest := rfl

@[simp] theorem lookup_put_self (key : String) (x : α) (fields : Fields α) :
    (put key x fields).lookup key = some x := by
  induction fields with
  | nil => simp [put]
  | cons e rest ih =>
    obtain ⟨k, y⟩ := e
    by_cases h : k = key
    · simp [put, h]
    · have h' : (key == k) = false := by simpa using fun e => h e.symm
      simp [put, h, List.lookup_cons, h', ih]

/-- Writing one key leaves what stands at the others. -/
theorem lookup_put_of_ne {key other : String} (x : α) (fields : Fields α) (h : other ≠ key) :
    (put key x fields).lookup other = fields.lookup other := by
  induction fields with
  | nil =>
    have h' : (other == key) = false := by simpa using h
    simp [put, List.lookup_cons, h']
  | cons e rest ih =>
    obtain ⟨k, y⟩ := e
    by_cases hk : k = key
    · subst hk
      have h' : (other == k) = false := by simpa using h
      simp [put, List.lookup_cons, h']
    · by_cases ho : other = k
      · simp [put, hk, ho]
      · have h' : (other == k) = false := by simpa using ho
        simp [put, hk, List.lookup_cons, h', ih]

/-- A new key goes to the end; a key that is present moves nothing. -/
theorem keys_put (key : String) (x : α) (fields : Fields α) :
    keys (put key x fields) = if key ∈ keys fields then keys fields else keys fields ++ [key] := by
  induction fields with
  | nil => simp [put]
  | cons e rest ih =>
    obtain ⟨k, y⟩ := e
    by_cases h : k = key
    · simp [put, h]
    · have h' : key ≠ k := fun e => h e.symm
      by_cases hm : key ∈ keys rest <;> simp [put, h, h', ih, hm]

end Fields

end RecordSieve
