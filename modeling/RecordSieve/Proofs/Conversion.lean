import RecordSieve.Proofs.Construction
import RecordSieve.Proofs.Reading

/-!
# Conversion of JSON

Criteria come from JSON in two ways. An object can be converted as a whole, or its keys and values
one pair after the other, and then a key may come again. Whoever makes an object of such pairs first
needs a map that keeps order (`OrderedMap`): a key that comes again keeps its first position and
takes its last value. Criteria are written in the same manner, so it makes no difference where the
repetitions are sorted out, in the JSON or in the criteria.

**`conversion_loses_nothing`** says this, and that what was converted can be had back.
-/

namespace RecordSieve

/-! ### Maps that keep order -/

/-- A map from keys to values that keeps order, whatever it is held in. -/
structure OrderedMap (α : Type) where
  /-- What a map is held in. -/
  Carrier : Type
  /-- The map without entries. -/
  empty : Carrier
  /-- Inserts a value under a key. -/
  insert : String → α → Carrier → Carrier
  /-- The entries, in order. -/
  entries : Carrier → Fields α
  /-- There are no entries to begin with. -/
  entries_empty : entries empty = []
  /-- What is inserted under a new key goes to the end. -/
  entries_insert_new : ∀ {key x m}, key ∉ Fields.keys (entries m) →
    entries (insert key x m) = entries m ++ [(key, x)]
  /-- A key that comes again keeps its position and takes the new value. -/
  entries_insert_again : ∀ {key x y m before after}, entries m = before ++ (key, y) :: after →
    key ∉ Fields.keys before → entries (insert key x m) = before ++ (key, x) :: after

namespace OrderedMap

variable {α : Type}

/-- Inserts pairs one after the other. -/
def ofPairs (M : OrderedMap α) (pairs : List (String × α)) : M.Carrier :=
  pairs.foldl (fun m e => M.insert e.1 e.2 m) M.empty

theorem entries_insert (M : OrderedMap α) (key : String) (x : α) (m : M.Carrier) :
    M.entries (M.insert key x m) = (M.entries m).put key x := by
  by_cases hkey : key ∈ Fields.keys (M.entries m)
  · obtain ⟨before, y, after, hentries, hbefore⟩ := Fields.exists_eq_append_cons hkey
    rw [M.entries_insert_again hentries hbefore, hentries, Fields.put_append_cons x y hbefore]
  · rw [M.entries_insert_new hkey, Fields.put_of_not_mem hkey]

/-- The pairs end up as they do where they are written one after the other. -/
theorem entries_ofPairs (M : OrderedMap α) (pairs : List (String × α)) :
    M.entries (M.ofPairs pairs) = Fields.ofPairs pairs := by
  induction pairs using List.reverseRecOn with
  | nil => exact M.entries_empty
  | append_singleton pairs e ih =>
    obtain ⟨key, x⟩ := e
    rw [ofPairs, List.foldl_concat, entries_insert, Fields.ofPairs_concat, ← ih, ofPairs]

/-- The fields that objects are read into are such a map. -/
def ofFields (α : Type) : OrderedMap α where
  Carrier := Fields α
  empty := []
  insert := Fields.put
  entries fields := fields
  entries_empty := rfl
  entries_insert_new := Fields.put_of_not_mem
  entries_insert_again hentries hbefore := hentries ▸ Fields.put_append_cons _ _ hbefore

end OrderedMap

namespace Criteria

/-- Objects are converted, and nothing else is. -/
theorem exists_ofValue_iff (j : Json) :
    (∃ q, ofValue j.value = .ok q) ↔ ∃ fields, j = .object fields := by
  constructor
  · rintro ⟨q, hq⟩
    obtain ⟨fields, hfields, -⟩ := ofValue_eq_ok_iff.mp hq
    cases j with
    | object fields => exact ⟨fields, rfl⟩
    | null | bool | number | string | array => cases hfields
  · rintro ⟨fields, rfl⟩
    exact ⟨_, rfl⟩

/-- Keys that are repeated may be sorted out in the object or in the criteria. -/
theorem ofValue_entries (M : OrderedMap Json) (pairs : List (String × Json)) :
    ofValue (Json.object (M.entries (M.ofPairs pairs))).value =
      .ok (Fields.ofPairs (pairs.map fun e => (e.1, Criterion.ofValue e.2.value))) := by
  have hconvert : Criterion.ofFields
      ((Fields.ofPairs pairs).map fun e => (e.1, e.2.value)) =
        Fields.ofPairs (pairs.map fun e => (e.1, Criterion.ofValue e.2.value)) := by
    rw [Criterion.ofFields_eq_map, List.map_map]
    exact (Fields.ofPairs_map (fun j : Json => Criterion.ofValue j.value) pairs).symm
  rw [M.entries_ofPairs, Json.value_object, ofValue, hconvert,
    Fields.ofPairs_of_nodup (Fields.nodup_keys_ofPairs _)]

end Criteria

/-- **Conversion of JSON loses nothing.** -/
theorem conversion_loses_nothing :
    -- The criterion of a JSON value reads back as that value, at every depth, and reading back goes
    -- by what the accessors of a criterion show.
    (∀ j : Json, j.KeysDistinct → (Criterion.ofValue j.value).json? = some j) ∧
    (∀ c : Criterion, c.json? = c.shown? Criterion.json?) ∧
    -- A number of JSON is held in a signed word, or in an unsigned word if no signed one holds it, or
    -- in the double that it is. It can be had back from there, and it is never NaN.
    (∀ n : JsonNumber, (Number.ofJson n).json? = some n ∧ (Number.ofJson n).isNaN = false ∧
      ((∃ k, n = .ofSigned k ∧ Number.ofJson n = .signed k) ∨
        (∃ k, n = .natural k ∧ 2 ^ 63 ≤ k.toNat ∧ Number.ofJson n = .unsigned k) ∨
        ∃ x h, n = .double x h ∧ Number.ofJson n = .double x)) ∧
    -- An object has criteria, those that its criterion nests, and no other JSON value has any.
    (∀ j : Json, (∃ q, Criteria.ofValue j.value = .ok q) ↔ ∃ fields, j = .object fields) ∧
    (∀ (j : Json) (q : Criteria),
      Criteria.ofValue j.value = .ok q → Criterion.ofValue j.value = .nested q) ∧
    -- Pairs that are collected one by one, with whatever keys repeated, are the criteria of the
    -- object that a map that keeps order makes of them.
    (∀ (M : OrderedMap Json) (pairs : List (String × Json)),
      Criteria.ofValue (Json.object (M.entries (M.ofPairs pairs))).value =
        .ok (Fields.ofPairs (pairs.map fun e => (e.1, Criterion.ofValue e.2.value)))) ∧
    -- Criteria that are collected again stay the same.
    (∀ q : Criteria, q.Constructed → Fields.ofPairs q = q) ∧
    -- All that is read from a text is what a record has of a JSON value.
    ∀ limit text v, Value.ofText? limit text = some v → ∃ j : Json, j.KeysDistinct ∧ j.value = v := by
  refine ⟨fun j h => h.json?_ofValue, Criterion.json?_eq_shown?, fun n => ?_,
    Criteria.exists_ofValue_iff, fun j q hq => ?_, Criteria.ofValue_entries, fun q hq => ?_,
    fun limit text v => Value.isJson_of_ofText?⟩
  · exact ⟨Number.json?_ofJson n, Number.isNaN_ofJson n, Number.ofJson_cases n⟩
  · obtain ⟨-, -, hnested⟩ := Criteria.ofValue_eq_ok_iff.mp hq
    exact hnested
  · exact Fields.ofPairs_of_nodup hq.keysDistinct.nodup

/-- An object with numbers of all kinds, the greatest unsigned word and minus zero among them. -/
def wanted : Json := .object
  [("size", .object [("$lt", .number (.natural 18446744073709551615)), ("$gt", .number (.natural 5))]),
   ("marks", .array [.number (.negative (-3) (by decide)),
     .number (.double ⟨0x8000000000000000⟩ (by decide)), .object []]),
   ("name", .string "Ann")]

theorem wanted_keysDistinct : wanted.KeysDistinct := by
  refine .object (by decide) ?_
  simp only [List.forall_mem_cons]
  refine ⟨.object (by decide) ?size, .array ?marks, .string _, by simp⟩
  case size =>
    simp only [List.forall_mem_cons]
    exact ⟨.number _, .number _, by simp⟩
  case marks =>
    simp only [List.forall_mem_cons]
    exact ⟨.number _, .number _, .object (by decide) (by simp), by simp⟩

/-- The object reads back as it is, and so do criteria that are collected with it, where a key comes
again. -/
theorem wanted_is_kept :
    wanted.KeysDistinct ∧ (Criterion.ofValue wanted.value).json? = some wanted ∧
      (∃ q, Criteria.ofValue wanted.value = .ok q) ∧
      Criteria.ofValue (Json.object [("b", .null), ("a", wanted)]).value =
        .ok (Fields.ofPairs [("b", .literal (.bool true)), ("a", Criterion.ofValue wanted.value),
          ("b", .literal .null)]) := by
  obtain ⟨hread, -, -, hobject, -, hpairs, -⟩ := conversion_loses_nothing
  refine ⟨wanted_keysDistinct, hread wanted wanted_keysDistinct, (hobject wanted).mpr ⟨_, rfl⟩, ?_⟩
  exact hpairs (.ofFields Json) [("b", .bool true), ("a", wanted), ("b", .null)]

end RecordSieve
