import RecordSieve.Criterion.OfValue
import RecordSieve.Proofs.Equality
import RecordSieve.Proofs.Extension

/-!
# Queries by example

A value that is read as a criterion asks for items that look like it. This is so as long as the
keys in the value are only keys: a key with a dot would be read as a path, and the name of an
operator as that operator. In a *plain* value there are no such keys.

The criterion of a plain value has one thing to say for each *leaf* of the value, each scalar in
it: that the item has an equal scalar at the same place (`Value.Plain.holds_iff`). It follows that
the value itself satisfies the criterion and that its extensions do, and that parts without leaves
ask for nothing. **`ofValue_asks_for_leaves`** says all this of the evaluation.
-/

namespace RecordSieve

/-! ### Reading a value without its special keys -/

namespace Path

theorem splitAtDots_of_not_mem {text : List Char} (h : '.' ∉ text) : splitAtDots text = [text] := by
  induction text with
  | nil => rfl
  | cons c text ih =>
    obtain ⟨hc, htext⟩ := not_or.mp fun hor => h (List.mem_cons.mpr hor)
    rw [splitAtDots, if_neg (Ne.symm hc), ih htext]

/-- A path without dots leads to the field of that key. -/
theorem resolve_of_not_mem {path : String} (h : '.' ∉ path.toList) (item : Option Value) :
    resolve item path = item.bind (Value.field? path) := by
  rw [resolve, keys, splitAtDots_of_not_mem h, List.map_cons, List.map_nil, String.ofList_toList,
    follow_cons, follow_nil]

end Path

namespace Criterion

theorem ofValues_eq_map (vs : List Value) : ofValues vs = vs.map ofValue := by
  induction vs with
  | nil => rfl
  | cons v vs ih => rw [ofValues, ih, List.map_cons]

theorem ofFields_eq_map (fields : Fields Value) :
    ofFields fields = fields.map fun e => (e.1, ofValue e.2) := by
  induction fields with
  | nil => rfl
  | cons e fields ih => rw [ofFields, ih, List.map_cons]

theorem ofValue_array (items : List Value) : ofValue (.array items) = list (items.map ofValue) := by
  rw [ofValue, ofValues_eq_map]

theorem ofValue_object {fields : Fields Value} (h : (Fields.keys fields).Nodup) :
    ofValue (.object fields) = nested (fields.map fun e => (e.1, ofValue e.2)) := by
  rw [ofValue, ofFields_eq_map, Fields.ofPairs_of_nodup (Fields.keys_map ofValue fields ▸ h)]

end Criterion

/-! ### Plain values and their leaves -/

/-- The keys in the value are distinct within each object, none of them is read as a path or as an
operator, and all numbers are equal to themselves. -/
inductive Value.Plain : Value → Prop
  | scalar {s : Scalar} : s.isNaN = false → Value.Plain (.scalar s)
  | array {items : List Value} : (∀ v ∈ items, Value.Plain v) → Value.Plain (.array items)
  | object {fields : Fields Value} : (Fields.keys fields).Nodup →
      (∀ e ∈ fields, '.' ∉ e.1.toList ∧ Operator.ofKey? e.1 = none) →
      (∀ e ∈ fields, Value.Plain e.2) → Value.Plain (.object fields)

/-- The value has a scalar at a place. -/
def Value.HasLeaf (v : Value) (place : List Place.Step) (s : Scalar) : Prop :=
  Place.part (some v) place = some (.scalar s)

namespace Value

variable {place : List Place.Step} {s t : Scalar}

theorem hasLeaf_scalar_iff : (Value.scalar t).HasLeaf place s ↔ place = [] ∧ s = t := by
  rw [HasLeaf]
  cases place with
  | nil => simp [eq_comm]
  | cons step place => simp [Place.step_scalar]

/-- The leaves of an array are those of its members. -/
theorem hasLeaf_array_iff {items : List Value} :
    (Value.array items).HasLeaf place s ↔
      ∃ (i : Nat) (rest : List Place.Step) (v : Value),
        place = .index i :: rest ∧ items[i]? = some v ∧ v.HasLeaf rest s := by
  constructor
  · intro h
    rw [HasLeaf] at h
    match place, h with
    | .key key :: rest, h => simp [Place.step, field?] at h
    | .index i :: rest, h =>
      rw [Place.part_cons, Place.step, memberAt] at h
      cases hv : items[i]? with
      | none => simp [hv] at h
      | some v =>
        rw [hv] at h
        exact ⟨i, rest, v, rfl, hv, h⟩
  · rintro ⟨i, rest, v, rfl, hv, h⟩
    rw [HasLeaf, Place.part_cons, Place.step, memberAt, hv]
    exact h

/-- The leaves of an object are those of its fields. -/
theorem hasLeaf_object_iff {fields : Fields Value} :
    (Value.object fields).HasLeaf place s ↔
      ∃ (key : String) (rest : List Place.Step) (v : Value),
        place = .key key :: rest ∧ fields.lookup key = some v ∧ v.HasLeaf rest s := by
  constructor
  · intro h
    rw [HasLeaf] at h
    match place, h with
    | .index i :: rest, h => simp [Place.step, memberAt] at h
    | .key key :: rest, h =>
      rw [Place.part_cons, Place.step, Option.bind_some, field?] at h
      cases hv : fields.lookup key with
      | none => simp [hv] at h
      | some v =>
        rw [hv] at h
        exact ⟨key, rest, v, rfl, hv, h⟩
  · rintro ⟨key, rest, v, rfl, hv, h⟩
    rw [HasLeaf, Place.part_cons, Place.step, Option.bind_some, field?, hv]
    exact h

/-- The leaves of a plain value are equal to themselves. -/
theorem Plain.isNaN_leaf {v : Value} (h : v.Plain) (hs : v.HasLeaf place s) : s.isNaN = false := by
  induction h generalizing place with
  | scalar hNaN =>
    obtain ⟨-, rfl⟩ := hasLeaf_scalar_iff.mp hs
    exact hNaN
  | array _ ih =>
    obtain ⟨i, rest, v, -, hv, hleaf⟩ := hasLeaf_array_iff.mp hs
    exact ih v (List.mem_of_getElem? hv) hleaf
  | object _ _ _ ih =>
    obtain ⟨key, rest, v, -, hv, hleaf⟩ := hasLeaf_object_iff.mp hs
    exact ih (key, v) (Fields.mem_of_lookup hv) hleaf

/-! ### What the criterion of a plain value means -/

/-- The item has, at the place of each leaf of the value, a scalar equal to the leaf. -/
def LeavesIn (v : Value) (item : Option Value) : Prop :=
  ∀ place s, v.HasLeaf place s → Equals (Place.part item place) s

variable {item : Option Value}

theorem leavesIn_scalar_iff : (Value.scalar s).LeavesIn item ↔ Equals item s := by
  simp only [LeavesIn, hasLeaf_scalar_iff]
  constructor
  · exact fun h => h [] s ⟨rfl, rfl⟩
  · rintro h place t ⟨rfl, rfl⟩
    exact h

theorem leavesIn_array_iff {items : List Value} :
    (Value.array items).LeavesIn item ↔
      ∀ (i : Nat) v, items[i]? = some v → v.LeavesIn (memberAt item i) := by
  constructor
  · intro h i v hv place s hleaf
    exact h (.index i :: place) s (hasLeaf_array_iff.mpr ⟨i, place, v, rfl, hv, hleaf⟩)
  · intro h place s hleaf
    obtain ⟨i, rest, v, rfl, hv, hrest⟩ := hasLeaf_array_iff.mp hleaf
    exact h i v hv rest s hrest

theorem leavesIn_object_iff {fields : Fields Value} :
    (Value.object fields).LeavesIn item ↔
      ∀ key v, fields.lookup key = some v → v.LeavesIn (item.bind (field? key)) := by
  constructor
  · intro h key v hv place s hleaf
    exact h (.key key :: place) s (hasLeaf_object_iff.mpr ⟨key, place, v, rfl, hv, hleaf⟩)
  · intro h place s hleaf
    obtain ⟨key, rest, v, rfl, hv, hrest⟩ := hasLeaf_object_iff.mp hleaf
    exact h key v hv rest s hrest

/-- There are no operators in the criterion of a plain value, so it has no operand of the wrong
kind. -/
theorem Plain.wellShaped {v : Value} (h : v.Plain) : (Criterion.ofValue v).WellShaped := by
  induction h with
  | @scalar s _ => exact .literal s
  | array _ ih =>
    rw [Criterion.ofValue_array]
    refine .list fun c hc => ?_
    obtain ⟨v, hv, rfl⟩ := List.mem_map.mp hc
    exact ih v hv
  | object hnodup hkeys _ ih =>
    rw [Criterion.ofValue_object hnodup]
    refine Criterion.wellShaped_nested fun e he => ?_
    obtain ⟨f, hf, rfl⟩ := List.mem_map.mp he
    simp only [(hkeys f hf).2]
    exact ih f hf

/-- The criterion of a plain value says that the item has its leaves. -/
theorem Plain.holds_iff {v : Value} (h : v.Plain) (item : Option Value) :
    (Criterion.ofValue v).Holds item ↔ v.LeavesIn item := by
  induction h generalizing item with
  | scalar _ => rw [Criterion.ofValue, Criterion.Holds, leavesIn_scalar_iff]
  | @array items _ ih =>
    rw [Criterion.ofValue_array, Criterion.Holds, leavesIn_array_iff]
    constructor
    · intro hholds i v hv
      have hc : (items.map Criterion.ofValue)[i]? = some (Criterion.ofValue v) := by
        rw [List.getElem?_map, hv, Option.map_some]
      exact (ih v (List.mem_of_getElem? hv) _).mp (hholds i _ hc)
    · intro hleaves i c hc
      rw [List.getElem?_map] at hc
      obtain ⟨v, hv, rfl⟩ := Option.map_eq_some_iff.mp hc
      exact (ih v (List.mem_of_getElem? hv) _).mpr (hleaves i v hv)
  | @object fields hnodup hkeys _ ih =>
    -- Under each of its keys the criterion says of the field what the value there says.
    have hfield (key : String) (v : Value) (hmem : (key, v) ∈ fields) :
        (Criterion.ofValue v).HoldsAt key item ↔ v.LeavesIn (item.bind (field? key)) := by
      obtain ⟨hdot, hop⟩ := hkeys (key, v) hmem
      rw [Criterion.HoldsAt, hop, Path.resolve_of_not_mem hdot]
      exact ih (key, v) hmem _
    rw [Criterion.ofValue_object hnodup, Criterion.Holds, leavesIn_object_iff]
    constructor
    · intro hholds key v hv
      have hmem := Fields.mem_of_lookup hv
      exact (hfield key v hmem).mp (hholds key _ (List.mem_map.mpr ⟨(key, v), hmem, rfl⟩))
    · intro hleaves key c hc
      obtain ⟨⟨k, v⟩, hmem, heq⟩ := List.mem_map.mp hc
      cases heq
      exact (hfield k v hmem).mpr (hleaves k v (Fields.lookup_of_mem hnodup hmem))

/-- The evaluation decides whether the item has the leaves of the value. -/
theorem Plain.decides {v : Value} (h : v.Plain) (item : Option Value) :
    ((Criterion.ofValue v).evaluate item).Decides (v.LeavesIn item) :=
  (h.wellShaped.meant item).congr rfl (h.holds_iff item).symm

/-- An extension of a plain value has the leaves of the value. -/
theorem Plain.leavesIn_of_extendsTo {v : Value} (h : v.Plain) (hitem : ExtendsTo (some v) item) :
    v.LeavesIn item := by
  intro place s hleaf
  have hpart := hitem.part place
  rw [hleaf] at hpart
  refine ⟨s, hpart.eq_scalar, ?_⟩
  rw [Scalar.strictEq_self, h.isNaN_leaf hleaf]
  rfl

/-- Only the places of the leaves matter in an item. -/
theorem LeavesIn.congr {v : Value} {other : Option Value} (h : v.LeavesIn item)
    (hparts : ∀ place s, v.HasLeaf place s → Place.part item place = Place.part other place) :
    v.LeavesIn other :=
  fun place s hleaf => hparts place s hleaf ▸ h place s hleaf

end Value

/-- **A plain value, read as a criterion, asks for its leaves**: its evaluation ends with a yes or a
no, never with an error, and with a yes exactly if the item has an equal scalar at the place of each
leaf. -/
theorem ofValue_asks_for_leaves (v : Value) (h : v.Plain) :
    (∀ item, ((Criterion.ofValue v).evaluate item).verdict = .yes ∨
      ((Criterion.ofValue v).evaluate item).verdict = .no) ∧
    (∀ item, ((Criterion.ofValue v).evaluate item).verdict = .yes ↔
      ∀ place s, v.HasLeaf place s →
        ∃ t, Place.part item place = some (.scalar t) ∧ t.strictEq s = true) ∧
    -- The value looks like itself, and so do its extensions.
    ((Criterion.ofValue v).evaluate (some v)).verdict = .yes ∧
    (∀ w, ExtendsTo (some v) (some w) → ((Criterion.ofValue v).evaluate (some w)).verdict = .yes) ∧
    -- What has no leaves asks for nothing: neither the value, nor a part of it, nor of an item what
    -- it has, or does not have, at other places than the leaves.
    ((∀ place s, ¬v.HasLeaf place s) →
      ∀ item, ((Criterion.ofValue v).evaluate item).verdict = .yes) ∧
    (∀ item other, (∀ place s, v.HasLeaf place s → Place.part item place = Place.part other place) →
      ((Criterion.ofValue v).evaluate item).verdict =
        ((Criterion.ofValue v).evaluate other).verdict) ∧
    ∀ u : Value, u.Plain → (∀ place s, u.HasLeaf place s ↔ v.HasLeaf place s) →
      ∀ item, ((Criterion.ofValue u).evaluate item).verdict =
        ((Criterion.ofValue v).evaluate item).verdict := by
  have hextension {w : Value} (hw : ExtendsTo (some v) (some w)) :
      ((Criterion.ofValue v).evaluate (some w)).verdict = .yes :=
    (h.decides _).yes_iff.mpr (h.leavesIn_of_extendsTo hw)
  refine ⟨fun item => (h.decides item).yes_or_no, fun item => (h.decides item).yes_iff,
    hextension (extendsTo_refl v), fun w => hextension, ?no_leaves, ?items, ?values⟩
  case no_leaves =>
    intro hnone item
    exact (h.decides item).yes_iff.mpr fun place s hleaf => absurd hleaf (hnone place s)
  case items =>
    intro item other hparts
    refine (h.decides item).verdict_eq (h.decides other) ⟨fun hin => hin.congr hparts, fun hin => ?_⟩
    exact hin.congr fun place s hleaf => (hparts place s hleaf).symm
  case values =>
    intro u hu hleaves item
    refine (hu.decides item).verdict_eq (h.decides item) ?_
    simp only [Value.LeavesIn, hleaves]

/-- A key with a dot is read as a path, and this value does not look like itself. -/
example :
    let v : Value := .object [("a.b", .scalar .null)]
    ((Criterion.ofValue v).evaluate (some v)).verdict = .no := by
  decide +kernel

/-- A name, a number at a position of an array, and parts without leaves. -/
def template : Value := .object
  [("name", .scalar (.string "Ann")),
   ("tags", .array [.object [], .scalar (.number (.signed 2))]),
   ("more", .object [("inner", .array [])])]

theorem template_plain : template.Plain := by
  refine .object (by decide) (by decide) ?_
  simp only [List.forall_mem_cons]
  refine ⟨.scalar rfl, .array ?tags, .object (by decide) (by decide) ?more, by simp⟩
  case tags =>
    simp only [List.forall_mem_cons]
    exact ⟨.object (by decide) (by simp) (by simp), .scalar rfl, by simp⟩
  case more =>
    simp only [List.forall_mem_cons]
    exact ⟨.array (by simp), by simp⟩

/-- A record that has the leaves of the template, the number as a double, and lacks all else. -/
def lookalike : Value := .object
  [("tags", .array [.scalar .null, .scalar (.number (.double ⟨0x4000000000000000⟩))]),
   ("name", .scalar (.string "Ann"))]

/-- The evaluation says that the record looks like the template, so it has its leaves. -/
theorem lookalike_has_leaves : template.Plain ∧ ∀ place s, template.HasLeaf place s →
    ∃ t, Place.part (some lookalike) place = some (.scalar t) ∧ t.strictEq s = true := by
  have hyes : ((Criterion.ofValue template).evaluate (some lookalike)).verdict = .yes := by
    decide +kernel
  exact ⟨template_plain, ((ofValue_asks_for_leaves template template_plain).2.1 _).mp hyes⟩

end RecordSieve
