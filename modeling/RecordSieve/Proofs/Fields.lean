import Mathlib.Data.Finset.Card
import Mathlib.Data.List.Forall2
import Mathlib.Data.List.Nodup
import RecordSieve.Fields

/-!
# Fields without repeated keys

Where no key occurs twice, looking up a key and going through the fields come to the same, so that
the order of the fields makes no difference to a look-up, and writing the fields one after the other
gives them back as they are.

Whatever writes fields one key at a time, from none on, ends with the keys *in the order of
mention*: each key that was mentioned has one entry, and the entries stand in the order in which
their keys were mentioned first.
-/

namespace RecordSieve

namespace Fields

variable {α β : Type} {fields others : Fields α} {key : String} {x : α}

theorem keys_map (f : α → β) (fields : Fields α) :
    keys (fields.map fun e => (e.1, f e.2)) = keys fields :=
  List.map_map

theorem mem_of_lookup (h : fields.lookup key = some x) : (key, x) ∈ fields := by
  obtain ⟨before, after, rfl, -⟩ := List.lookup_eq_some_iff.mp h
  exact List.mem_append_right before List.mem_cons_self

theorem mem_keys_of_lookup (h : fields.lookup key = some x) : key ∈ keys fields :=
  List.mem_map.mpr ⟨(key, x), mem_of_lookup h, rfl⟩

/-- What stands before and behind a key stands under other keys. -/
theorem ne_of_nodup_keys {before after : Fields α}
    (h : (keys (before ++ (key, x) :: after)).Nodup) :
    (∀ e ∈ before, e.1 ≠ key) ∧ ∀ e ∈ after, e.1 ≠ key := by
  simp only [keys, List.map_append, List.map_cons, List.nodup_middle, List.nodup_cons,
    List.mem_append, not_or] at h
  exact ⟨fun e he heq => h.1.1 (List.mem_map.mpr ⟨e, he, heq⟩),
    fun e he heq => h.1.2 (List.mem_map.mpr ⟨e, he, heq⟩)⟩

theorem lookup_of_mem (h : (keys fields).Nodup) (hmem : (key, x) ∈ fields) :
    fields.lookup key = some x := by
  obtain ⟨before, after, rfl⟩ := List.append_of_mem hmem
  refine List.lookup_eq_some_iff.mpr ⟨before, after, rfl, fun e he => ?_⟩
  simpa using ((ne_of_nodup_keys h).1 e he).symm

theorem lookup_eq_none (h : key ∉ keys fields) : fields.lookup key = none := by
  cases hlookup : fields.lookup key with
  | none => rfl
  | some x => exact absurd (mem_keys_of_lookup hlookup) h

/-- Where no key occurs twice, the order of fields makes no difference to a look-up. -/
theorem lookup_of_perm (hnodup : (keys fields).Nodup) (h : fields.Perm others) (key : String) :
    fields.lookup key = others.lookup key := by
  have hkeys : (keys fields).Perm (keys others) := h.map Prod.fst
  cases hx : fields.lookup key with
  | some x =>
    have hmem : (key, x) ∈ others := h.mem_iff.mp (mem_of_lookup hx)
    exact (lookup_of_mem (hkeys.nodup_iff.mp hnodup) hmem).symm
  | none =>
    cases hy : others.lookup key with
    | none => rfl
    | some y =>
      have hmem : (key, y) ∈ fields := h.mem_iff.mpr (mem_of_lookup hy)
      rw [lookup_of_mem hnodup hmem] at hx
      cases hx

/-- Fields of the same keys in the same order are looked up side by side. -/
theorem lookup_rel {R : α → α → Prop}
    (h : List.Forall₂ (fun e f => e.1 = f.1 ∧ R e.2 f.2) fields others) (key : String) :
    Option.Rel R (fields.lookup key) (others.lookup key) := by
  induction h with
  | nil => exact .none
  | @cons e f fields others hef _ ih =>
    obtain ⟨k, x⟩ := e
    obtain ⟨l, y⟩ := f
    obtain ⟨rfl, hxy⟩ := hef
    rw [List.lookup_cons, List.lookup_cons]
    cases key == k with
    | true => exact .some hxy
    | false => exact ih

/-- A new key goes to the end. -/
theorem put_of_not_mem (h : key ∉ keys fields) : put key x fields = fields ++ [(key, x)] := by
  induction fields with
  | nil => rfl
  | cons e rest ih =>
    obtain ⟨k, y⟩ := e
    obtain ⟨hk, hrest⟩ := not_or.mp fun hor => h (List.mem_cons.mpr hor)
    rw [put, if_neg (Ne.symm hk), ih hrest, List.cons_append]

/-! ### Writing one key -/

theorem nodup_keys_put (key : String) (x : α) (h : (keys fields).Nodup) :
    (keys (put key x fields)).Nodup := by
  rw [keys_put]
  split_ifs with hmem
  · exact h
  · rw [← List.concat_eq_append]
    exact h.concat hmem

theorem eq_or_mem_of_mem_put {e : String × α} (h : e ∈ put key x fields) :
    e = (key, x) ∨ e ∈ fields := by
  induction fields with
  | nil => exact .inl (List.mem_singleton.mp h)
  | cons f rest ih =>
    obtain ⟨k, y⟩ := f
    rw [put] at h
    split_ifs at h with hk
    · exact (List.mem_cons.mp h).imp_right (List.mem_cons_of_mem _)
    · rcases List.mem_cons.mp h with rfl | hrest
      · exact .inr List.mem_cons_self
      · exact (ih hrest).imp_right (List.mem_cons_of_mem _)

/-- A key is written where it stands first. -/
theorem put_append_cons {before after : Fields α} (x y : α) (h : key ∉ keys before) :
    put key x (before ++ (key, y) :: after) = before ++ (key, x) :: after := by
  induction before with
  | nil => exact if_pos rfl
  | cons e before ih =>
    obtain ⟨hne, hbefore⟩ := not_or.mp fun hor => h (List.mem_cons.mpr hor)
    rw [List.cons_append, put, if_neg (Ne.symm hne), ih hbefore, List.cons_append]

/-- A key that is there stands somewhere first. -/
theorem exists_eq_append_cons (h : key ∈ keys fields) :
    ∃ before x after, fields = before ++ (key, x) :: after ∧ key ∉ keys before := by
  obtain ⟨front, back, hkeys, hfront⟩ := List.eq_append_cons_of_mem h
  obtain ⟨before, rest, rfl, rfl, hrest⟩ := List.map_eq_append_iff.mp hkeys
  obtain ⟨⟨k, x⟩, after, rfl, rfl, -⟩ := List.map_eq_cons_iff.mp hrest
  exact ⟨before, x, after, rfl, hfront⟩

/-- What stands under a key is replaced where it stands. -/
theorem exists_put_of_lookup (h : fields.lookup key = some x) :
    ∃ before after, fields = before ++ (key, x) :: after ∧
      ∀ y, put key y fields = before ++ (key, y) :: after := by
  obtain ⟨before, after, rfl, hbefore⟩ := List.lookup_eq_some_iff.mp h
  refine ⟨before, after, rfl, fun y => put_append_cons y x fun hmem => ?_⟩
  obtain ⟨e, he, rfl⟩ := List.mem_map.mp hmem
  simpa using hbefore e he

/-- The entries of the other keys stay what and where they are. -/
theorem getElem?_put_of_ne {other : String} (x : α) (fields : Fields α) (h : other ≠ key) (i : Nat)
    (y : α) : (put key x fields)[i]? = some (other, y) ↔ fields[i]? = some (other, y) := by
  induction fields generalizing i with
  | nil =>
    cases i with
    | zero => simp [put, h.symm]
    | succ i => simp [put]
  | cons f rest ih =>
    obtain ⟨k, z⟩ := f
    rw [put]
    split_ifs with hk
    · subst hk
      cases i with
      | zero => simp [h.symm]
      | succ i => rfl
    · cases i with
      | zero => rfl
      | succ i => exact ih i

/-! ### Writing pairs -/

theorem ofPairs_concat (pairs : List (String × α)) (key : String) (x : α) :
    ofPairs (pairs ++ [(key, x)]) = put key x (ofPairs pairs) := by
  rw [ofPairs, List.foldl_concat, ofPairs]

theorem nodup_keys_ofPairs (pairs : List (String × α)) : (keys (ofPairs pairs)).Nodup := by
  induction pairs using List.reverseRecOn with
  | nil => exact List.nodup_nil
  | append_singleton pairs e ih =>
    obtain ⟨key, x⟩ := e
    rw [ofPairs_concat]
    exact nodup_keys_put key x ih

/-- Pairs without repeated keys are written as they stand. -/
theorem ofPairs_of_nodup (h : (keys fields).Nodup) : ofPairs fields = fields := by
  induction fields using List.reverseRecOn with
  | nil => rfl
  | append_singleton fields e ih =>
    obtain ⟨key, x⟩ := e
    have hnew : key ∉ keys fields := by
      intro hmem
      obtain ⟨f, hf, heq⟩ := List.mem_map.mp hmem
      exact (ne_of_nodup_keys h).1 f hf heq
    rw [keys, List.map_append] at h
    rw [ofPairs_concat, ih h.of_append_left, put_of_not_mem hnew]

theorem put_map (f : α → β) (key : String) (x : α) (fields : Fields α) :
    put key (f x) (fields.map fun e => (e.1, f e.2)) =
      (put key x fields).map fun e => (e.1, f e.2) := by
  induction fields with
  | nil => rfl
  | cons e rest ih =>
    rw [List.map_cons, put, put, ih]
    split_ifs <;> rfl

/-- Values may be converted before they are written or afterwards. -/
theorem ofPairs_map (f : α → β) (pairs : List (String × α)) :
    ofPairs (pairs.map fun e => (e.1, f e.2)) = (ofPairs pairs).map fun e => (e.1, f e.2) := by
  induction pairs using List.reverseRecOn with
  | nil => rfl
  | append_singleton pairs e ih =>
    obtain ⟨key, x⟩ := e
    rw [List.map_append, List.map_singleton, ofPairs_concat, ofPairs_concat, ih, put_map]

/-! ### The order of mention -/

/-- One more mention counts if it is the first one of its key. -/
theorem eraseDups_concat (mentions : List String) (key : String) :
    (mentions ++ [key]).eraseDups =
      if key ∈ mentions then mentions.eraseDups else mentions.eraseDups ++ [key] := by
  rw [List.eraseDups_append]
  by_cases h : key ∈ mentions <;> simp [List.removeAll, List.eraseDups_cons, h]

theorem nodup_eraseDups (mentions : List String) : mentions.eraseDups.Nodup := by
  induction mentions using List.reverseRecOn with
  | nil => exact List.nodup_nil
  | append_singleton mentions key ih =>
    rw [eraseDups_concat]
    split_ifs with hmem
    · exact ih
    · rw [← List.concat_eq_append]
      exact ih.concat fun h => hmem (List.mem_eraseDups.mp h)

/-- Each mentioned key has one entry, and the entries stand in the order in which their keys were
mentioned first. -/
structure InOrderOfMention (fields : Fields α) (mentions : List String) : Prop where
  /-- The keys are those of the first mentions, in order. -/
  keys_eq : keys fields = mentions.eraseDups
  /-- No key has two entries. -/
  nodup : (keys fields).Nodup
  /-- There are as many entries as different keys were mentioned. -/
  length_eq : fields.length = mentions.toFinset.card

theorem inOrderOfMention_of_keys_eq {mentions : List String}
    (h : keys fields = mentions.eraseDups) : fields.InOrderOfMention mentions := by
  have hnodup : (keys fields).Nodup := h ▸ nodup_eraseDups mentions
  have hset : (keys fields).toFinset = mentions.toFinset := by
    ext key
    rw [h, List.mem_toFinset, List.mem_toFinset, List.mem_eraseDups]
  refine ⟨h, hnodup, ?_⟩
  rw [← hset, List.toFinset_card_of_nodup hnodup, keys, List.length_map]

/-- Steps that each write one key, carried out from no fields on, leave the keys in the order in
which the steps mention them. -/
theorem inOrderOfMention_foldl {step : Fields α → β → Fields α} {keyOf : β → String}
    (h : ∀ fields b, ∃ x, step fields b = put (keyOf b) x fields) (steps : List β) :
    (steps.foldl step []).InOrderOfMention (steps.map keyOf) := by
  apply inOrderOfMention_of_keys_eq
  -- The last step is split off, for it finds the keys of all others written.
  induction steps using List.reverseRecOn with
  | nil => rfl
  | append_singleton steps b ih =>
    obtain ⟨x, hx⟩ := h (steps.foldl step []) b
    rw [List.foldl_concat, hx, keys_put, ih, List.map_append, List.map_singleton, eraseDups_concat]
    simp only [List.mem_eraseDups]

end Fields

end RecordSieve
