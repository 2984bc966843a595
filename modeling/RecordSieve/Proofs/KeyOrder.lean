import RecordSieve.Proofs.Alike
import RecordSieve.Proofs.Fields
import RecordSieve.Proofs.Place
import RecordSieve.Proofs.SideBySide

/-!
# The order of fields

The fields of an object keep their order, but criteria cannot tell in which order they stand: a
value that is the same but for the order of fields, at any depth, is *reordered*
(`Value.Reordered`). A field is found under its key wherever it stands, and the members of arrays,
which do have a place, keep it. Reordering is thus a bisimulation of items.

**`field_order_is_irrelevant`** says what follows: all criteria, also those that err, are evaluated
alike on an item and a reordered one, and all queries end alike on collections of reordered records.
The same operators are dispatched, each on an item and a reordered one.
-/

namespace RecordSieve

/-- The values are the same but for the order of fields, at any depth. -/
inductive Value.Reordered : Value → Value → Prop
  /-- A scalar has no fields. -/
  | scalar (s : Scalar) : Reordered (.scalar s) (.scalar s)
  /-- The members of an array stay where they are. -/
  | array {vs ws : List Value} : List.Forall₂ Reordered vs ws → Reordered (.array vs) (.array ws)
  /-- Under each key of an object stands the same but for the order of fields, or nothing. -/
  | object {fields others : Fields Value} :
      (∀ key, Option.Rel Reordered (fields.lookup key) (others.lookup key)) →
      Reordered (.object fields) (.object others)

/-- The items are the same but for the order of fields, or there is none. -/
abbrev ReorderedItems : Option Value → Option Value → Prop := Option.Rel Value.Reordered

theorem Value.reordered_refl (v : Value) : v.Reordered v := by
  induction v with
  | scalar s => exact .scalar s
  | array items ih => exact .array (List.forall₂_same.mpr ih)
  | object fields ih =>
    refine .object fun key => ?_
    cases hv : fields.lookup key with
    | none => exact .none
    | some v => exact .some (ih (key, v) (Fields.mem_of_lookup hv))

/-- The fields of an object, which have distinct keys, are put in another order, and so are those
of what stands under the keys. -/
theorem Value.reordered_of_perm {fields inner others : Fields Value}
    (hnodup : (Fields.keys inner).Nodup)
    (hinner : List.Forall₂ (fun e f => e.1 = f.1 ∧ Reordered e.2 f.2) fields inner)
    (h : inner.Perm others) : Reordered (.object fields) (.object others) := by
  refine .object fun key => ?_
  rw [← Fields.lookup_of_perm hnodup h]
  exact Fields.lookup_rel hinner key

theorem bisimulation_reordered : Bisimulation ReorderedItems where
  isSome_eq := by
    rintro x y (_ | h) <;> rfl
  scalar?_eq := by
    rintro x y (h | _)
    · cases h <;> rfl
    · rfl
  field := by
    rintro x y (h | _) key
    · cases h with
      | object hfields => exact hfields key
      | scalar | array => exact .none
    · exact .none
  members := by
    rintro x y (h | _)
    · cases h with
      | array hmembers => exact hmembers.imp fun v w hvw => .some hvw
      | scalar | object => exact .nil
    · exact .nil
  missing := .none

/-- **The order of fields makes no difference.** -/
theorem field_order_is_irrelevant {x y : Option Value} (h : ReorderedItems x y) :
    -- Every criterion, of whatever shape, is evaluated alike on an item and a reordered one, looked
    -- for alike, and an operand to the same end, with the same verdict and with dispatches of the
    -- same operators, on reordered items.
    (∀ c : Criterion, (c.evaluate x).AlikeOn ReorderedItems (c.evaluate y) ∧
      (c.found x).AlikeOn ReorderedItems (c.found y) ∧
      ∀ op : Operator, (op.apply c x).AlikeOn ReorderedItems (op.apply c y)) ∧
    (∀ q : Criteria, (q.evaluate x).AlikeOn ReorderedItems (q.evaluate y)) ∧
    -- So all queries hit, or err, at the same positions of collections of which the records are
    -- reordered.
    ∀ (q : Criteria) (c d : Collection), List.Forall₂ Value.Reordered c.records d.records →
      Collection.QueriedAlike (Dispatch.OnRelated ReorderedItems) q c d := by
  have halike (c : Criterion) := Criterion.Restates.alike bisimulation_reordered
    (fun _ _ hst => hst) (c.restates_refl Scalar.interchangeable_refl)
  have hevaluate (q : Criteria) {x y : Option Value} (hxy : ReorderedItems x y) :
      (q.evaluate x).AlikeOn ReorderedItems (q.evaluate y) :=
    (halike (.nested q)).1 x y hxy
  refine ⟨fun c => ⟨(halike c).1 x y h, ?_, fun op => (halike c).2 op x y h⟩,
    fun q => hevaluate q h, fun q c d hrecords => ?_⟩
  · exact (halike c).1.found bisimulation_reordered h
  · exact Collection.queriedAlike (hrecords.imp fun v w hvw => hevaluate q (.some hvw))

/-- A record with an address. -/
def annAtHome : Value :=
  .object [("name", .scalar (.string "Ann")),
    ("home", .object [("zip", .scalar (.string "89073")), ("city", .scalar (.string "Ulm"))])]

/-- The record with its fields in the order of their keys, and those of the address, too. -/
def annAtHomeSorted : Value :=
  .object [("home", .object [("city", .scalar (.string "Ulm")), ("zip", .scalar (.string "89073"))]),
    ("name", .scalar (.string "Ann"))]

/-- Sorting the fields makes no difference to any criterion, nor to any query. -/
theorem sorted_fields_are_found_alike :
    annAtHome.Reordered annAtHomeSorted ∧
      (∀ c : Criterion, (c.evaluate (some annAtHome)).AlikeOn ReorderedItems
        (c.evaluate (some annAtHomeSorted))) ∧
      ∀ q, Collection.QueriedAlike (Dispatch.OnRelated ReorderedItems) q ⟨[annAtHome]⟩
        ⟨[annAtHomeSorted]⟩ := by
  have hhome : Value.Reordered
      (.object [("zip", .scalar (.string "89073")), ("city", .scalar (.string "Ulm"))])
      (.object [("city", .scalar (.string "Ulm")), ("zip", .scalar (.string "89073"))]) :=
    Value.reordered_of_perm (by decide) (List.forall₂_same.mpr fun e _ => ⟨rfl, e.2.reordered_refl⟩)
      (.swap _ _ _)
  have hann : annAtHome.Reordered annAtHomeSorted := by
    refine Value.reordered_of_perm ?_ ?_ (.swap _ _ _)
    · decide
    · exact .cons ⟨rfl, Value.reordered_refl _⟩ (.cons ⟨rfl, hhome⟩ .nil)
  have hsame := field_order_is_irrelevant (.some hann)
  exact ⟨hann, fun c => (hsame.1 c).1, fun q => hsame.2.2 q _ _ (.cons hann .nil)⟩

end RecordSieve
