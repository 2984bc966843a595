import RecordSieve.Proofs.Fields
import RecordSieve.Proofs.Place

/-!
# Extensions of items

A record can grow without losing anything: a field is added to an object in it, or members are
appended to an array. An item *extends to* another one if that has all that the first has, at the
same places: a missing item extends to anything, a scalar to itself alone, an array to one that
is at least as long and has extensions of its members at their positions, and an object to one
that has extensions of its fields under their keys.

The relation is stated for items, with nothing as the least of them. So an array need not be told
to be at least as long: a member does not extend to a position that has none.
-/

namespace RecordSieve

/-- The second item has all that the first one has. -/
inductive ExtendsTo : Option Value → Option Value → Prop
  /-- Where there is no value, anything may be added. -/
  | missing (y : Option Value) : ExtendsTo none y
  /-- A scalar stays as it is. -/
  | scalar (s : Scalar) : ExtendsTo (some (.scalar s)) (some (.scalar s))
  /-- At each position of an array stands an extension. -/
  | array {vs ws : List Value} : (∀ i : Nat, ExtendsTo vs[i]? ws[i]?) →
      ExtendsTo (some (.array vs)) (some (.array ws))
  /-- Under each key of an object stands an extension. -/
  | object {fields others : Fields Value} :
      (∀ key, ExtendsTo (fields.lookup key) (others.lookup key)) →
      ExtendsTo (some (.object fields)) (some (.object others))

namespace ExtendsTo

variable {x y : Option Value}

/-- Nothing is lost. -/
theorem exists_some {v : Value} (h : ExtendsTo (some v) y) :
    ∃ w, y = some w ∧ ExtendsTo (some v) (some w) := by
  cases y with
  | none => cases h
  | some w => exact ⟨w, rfl, h⟩

theorem ne_none {v : Value} (h : ExtendsTo (some v) y) : y ≠ none := by
  obtain ⟨w, rfl, -⟩ := h.exists_some
  exact Option.some_ne_none w

theorem eq_scalar {s : Scalar} (h : ExtendsTo (some (.scalar s)) y) : y = some (.scalar s) := by
  cases h
  rfl

theorem memberAt (h : ExtendsTo x y) (i : Nat) :
    ExtendsTo (RecordSieve.memberAt x i) (RecordSieve.memberAt y i) := by
  cases h with
  | array hmembers => exact hmembers i
  | missing | scalar | object => exact .missing _

theorem field (h : ExtendsTo x y) (key : String) :
    ExtendsTo (x.bind (Value.field? key)) (y.bind (Value.field? key)) := by
  cases h with
  | object hfields => exact hfields key
  | missing | scalar | array => exact .missing _

/-- What an item has at a place extends to what its extension has there. -/
theorem part (h : ExtendsTo x y) (place : List Place.Step) :
    ExtendsTo (Place.part x place) (Place.part y place) := by
  induction place generalizing x y with
  | nil => exact h
  | cons s place ih =>
    cases s with
    | key key => exact ih (h.field key)
    | index i => exact ih (h.memberAt i)

theorem follow (h : ExtendsTo x y) (keys : List String) :
    ExtendsTo (Path.follow x keys) (Path.follow y keys) := by
  induction keys generalizing x y with
  | nil => exact h
  | cons key keys ih => exact ih (h.field key)

/-- What an item has at a path extends to what its extension has there. -/
theorem resolve (h : ExtendsTo x y) (path : String) :
    ExtendsTo (Path.resolve x path) (Path.resolve y path) :=
  h.follow (Path.keys path)

/-- A member of an array extends to a member of its extension. -/
theorem exists_mem {vs : List Value} {v : Value} (h : ExtendsTo (some (.array vs)) y)
    (hv : v ∈ vs) : ∃ ws w, y = some (.array ws) ∧ w ∈ ws ∧ ExtendsTo (some v) (some w) := by
  obtain ⟨i, hi⟩ := List.mem_iff_getElem?.mp hv
  cases h with
  | @array _ ws hmembers =>
    have hmember := hmembers i
    rw [hi] at hmember
    obtain ⟨w, hw, hvw⟩ := hmember.exists_some
    exact ⟨ws, w, rfl, List.mem_of_getElem? hw, hvw⟩

end ExtendsTo

/-- Every value extends to itself. -/
theorem extendsTo_refl (v : Value) : ExtendsTo (some v) (some v) := by
  induction v with
  | scalar s => exact .scalar s
  | array items ih =>
    refine .array fun i => ?_
    cases hv : items[i]? with
    | none => exact .missing _
    | some v => exact ih v (List.mem_of_getElem? hv)
  | object fields ih =>
    refine .object fun key => ?_
    cases hv : fields.lookup key with
    | none => exact .missing _
    | some v => exact ih (key, v) (Fields.mem_of_lookup hv)

theorem ExtendsTo.refl : ∀ item : Option Value, ExtendsTo item item
  | none => .missing none
  | some v => extendsTo_refl v

theorem ExtendsTo.trans {x y z : Option Value} (hxy : ExtendsTo x y) (hyz : ExtendsTo y z) :
    ExtendsTo x z := by
  induction hxy generalizing z with
  | missing => exact .missing z
  | scalar s => exact hyz
  | array _ ih =>
    cases hyz with
    | array hmembers => exact .array fun i => ih i (hmembers i)
  | object _ ih =>
    cases hyz with
    | object hfields => exact .object fun key => ih key (hfields key)

/-! ### How records grow -/

/-- A new field is written, or what stands under a key is extended. -/
theorem ExtendsTo.put {fields : Fields Value} {key : String} {v : Value}
    (h : ExtendsTo (fields.lookup key) (some v)) :
    ExtendsTo (some (.object fields)) (some (.object (fields.put key v))) := by
  refine .object fun other => ?_
  by_cases hother : other = key
  · rw [hother, Fields.lookup_put_self]
    exact h
  · rw [Fields.lookup_put_of_ne v fields hother]
    exact .refl _

/-- Members are appended to an array. -/
theorem extendsTo_append (items more : List Value) :
    ExtendsTo (some (.array items)) (some (.array (items ++ more))) := by
  refine .array fun i => ?_
  cases hv : items[i]? with
  | none => exact .missing _
  | some v =>
    obtain ⟨hi, -⟩ := List.getElem?_eq_some_iff.mp hv
    rw [List.getElem?_append_left hi, hv]
    exact .refl _

end RecordSieve
