import RecordSieve.Proofs.Meaning

/-!
# Places inside values

A value has parts, and its parts have parts: the values under the keys of an object and the
members of an array. A *place* is a list of steps that lead from a value to such a part, one level
further down with each step. Other than a path, which consists of keys alone, a place leads
through arrays as well, and a key in it may be any text.

What is true of all parts of a value is shown by `Value.induction`, which gives the hypothesis for
all members and all fields at once.
-/

namespace RecordSieve

/-- What holds of an array as soon as it holds of its members, of an object as soon as it holds of
what stands under its keys, and of scalars, holds of every value. -/
@[elab_as_elim, induction_eliminator]
theorem Value.induction {motive : Value → Prop}
    (scalar : ∀ s, motive (.scalar s))
    (array : ∀ items, (∀ v ∈ items, motive v) → motive (.array items))
    (object : ∀ fields : Fields Value, (∀ e ∈ fields, motive e.2) → motive (.object fields)) :
    ∀ v, motive v := by
  intro v
  refine @Value.rec motive (fun items => ∀ v ∈ items, motive v)
    (fun fields => ∀ e ∈ fields, motive e.2) (fun e => motive e.2) scalar
    (fun items ih => array items ih) (fun fields ih => object fields ih) (by simp) ?_ (by simp) ?_
    (fun _ _ ih => ih) v
  · intro v items hv hitems
    exact List.forall_mem_cons.mpr ⟨hv, hitems⟩
  · intro e fields he hfields
    exact List.forall_mem_cons.mpr ⟨he, hfields⟩

namespace Place

/-- A step from a value to one of its parts. -/
inductive Step where
  /-- To the value under a key of an object. -/
  | key (key : String)
  /-- To the member at a position of an array. -/
  | index (i : Nat)
  deriving DecidableEq, Repr

/-- What a step into an item leads to. -/
def step (item : Option Value) : Step → Option Value
  | .key key => item.bind (Value.field? key)
  | .index i => memberAt item i

/-- What an item has at a place. -/
def part (item : Option Value) (place : List Step) : Option Value := place.foldl step item

@[simp] theorem part_nil (item : Option Value) : part item [] = item := rfl

@[simp] theorem part_cons (item : Option Value) (s : Step) (place : List Step) :
    part item (s :: place) = part (step item s) place := rfl

/-- Where there is no value, there are no parts. -/
@[simp] theorem part_none (place : List Step) : part none place = none := by
  induction place with
  | nil => rfl
  | cons s place ih => cases s <;> exact ih

/-- A scalar has no parts. -/
theorem step_scalar (s : Scalar) (t : Step) : step (some (.scalar s)) t = none := by
  cases t <;> rfl

end Place

end RecordSieve
