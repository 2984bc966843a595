import Mathlib.Data.List.Forall2
import RecordSieve.Proofs.Criterion
import RecordSieve.Proofs.Matching

/-!
# Evaluations side by side

The evaluation of one criterion on one item can be followed side by side with that of another
criterion on another item. The two are alike, with the same verdict and with dispatches that
correspond one by one, unless something that is looked at tells them apart.

Of a criterion, that is its shape, its keys, and what its literals say: one criterion *restates*
another (`Criterion.Restates`) if they differ in literals at most. Literals of one type that all
scalars are compared with alike are *interchangeable*. Of an item, it is whether it is there and
which scalar it is; its fields and members are items again. A relation between items that keeps
what is looked at, and is kept by each further look, is a *bisimulation* (`Bisimulation`), and
equality is one.

The walk through both criteria is made once, in **`Criterion.Restates.alike`**: what restates a
criterion with interchangeable literals is evaluated like it on items that a bisimulation relates,
and so is every operator that has the two as its operands. The items of the dispatches are related
as well.
-/

namespace RecordSieve

open Evaluation

variable {D : Dispatch → Dispatch → Prop} {x y : Option Value} {c d : Criterion}
  {cs ds : List Criterion}

/-- Two lists have the same images if they have them position by position. -/
theorem map_eq_map_iff_forall₂ {α β γ : Type} {f : α → γ} {g : β → γ} {as : List α} {bs : List β} :
    as.map f = bs.map g ↔ List.Forall₂ (fun a b => f a = g b) as bs := by
  rw [← List.forall₂_eq_eq_eq, List.forall₂_map_left_iff, List.forall₂_map_right_iff]

/-! ### The elements of an operand -/

namespace Criterion

/-- The first criterion goes on the first item as the second one on the second item. -/
structure GoesLike (D : Dispatch → Dispatch → Prop) (x y : Option Value) (c d : Criterion) :
    Prop where
  /-- An operator has the same to complain about. -/
  kind_eq : c.kind = d.kind
  /-- They are evaluated alike -/
  evaluate : (c.evaluate x).Alike D (d.evaluate y)
  /-- and looked for alike. -/
  found : (c.found x).Alike D (d.found y)

theorem exists_nested_of_kind (h : c.kind = .criteria) : ∃ q, c = .nested q := by
  cases c with
  | literal s => cases s <;> cases h
  | pattern p | list cs => cases h
  | nested q => exact ⟨q, rfl⟩

/-- What is no nested criteria ends a choice. -/
theorem someSatisfied_cons_of_ne (h : c.kind ≠ .criteria) (item : Option Value) (last : Verdict) :
    someSatisfied (c :: cs) item last = .of (.error (.mismatch .either .listOfCriteria c.kind)) := by
  cases c with
  | literal s | pattern p | list cs => rfl
  | nested q => exact absurd rfl h

theorem someSatisfied_alike
    (h : List.Forall₂ (fun c d => c.kind = d.kind ∧
      ∀ q, c = .nested q → (c.evaluate x).Alike D (d.evaluate y)) cs ds) (last : Verdict) :
    (someSatisfied cs x last).Alike D (someSatisfied ds y last) := by
  induction h generalizing last with
  | nil => exact alike_of rfl
  | @cons c d cs ds hcd _ ih =>
    obtain ⟨hkind, hevaluate⟩ := hcd
    by_cases hc : c.kind = .criteria
    · obtain ⟨q, rfl⟩ := exists_nested_of_kind hc
      obtain ⟨r, rfl⟩ := exists_nested_of_kind (hkind ▸ hc)
      exact (hevaluate q rfl).unlessYes ih
    · rw [someSatisfied_cons_of_ne hc, someSatisfied_cons_of_ne (hkind ▸ hc), hkind]
      exact alike_of rfl

theorem someFound_alike (h : List.Forall₂ (GoesLike D x y) cs ds) :
    (someFound cs x).Alike D (someFound ds y) := by
  rw [someFound_eq_any, someFound_eq_any]
  exact alike_any (h.imp fun c d hcd => hcd.found.lenient)

theorem everyFound_alike (h : List.Forall₂ (GoesLike D x y) cs ds) :
    (everyFound cs x).Alike D (everyFound ds y) := by
  rw [everyFound_eq_all, everyFound_eq_all]
  exact alike_all (h.imp fun c d hcd => hcd.found)

end Criterion

/-! ### Operators -/

/-- An operator says the same with two lists whose elements go alike, position by position. -/
theorem Operator.apply_list_alike {op : Operator} (hD : ∀ o ∈ op.chain, D ⟨o, x⟩ ⟨o, y⟩)
    (hsome : x.isSome = y.isSome) (h : List.Forall₂ (Criterion.GoesLike D x y) cs ds) :
    (op.apply (.list cs) x).Alike D (op.apply (.list ds) y) := by
  cases op with
  | greater | atLeast | less | atMost | unequal => exact (alike_of rfl).ofOperator hD
  | present => exact (alike_of (congrArg Verdict.ofBool hsome)).ofOperator hD
  | oneOf => exact (Criterion.someFound_alike h).ofOperator hD
  | noneOf => exact (Criterion.someFound_alike h).negated.ofOperator hD
  | allOf => exact (Criterion.everyFound_alike h).ofOperator hD
  | either =>
    have hsatisfied := Criterion.someSatisfied_alike
      (h.imp fun c d hcd => ⟨hcd.kind_eq, fun _ _ => hcd.evaluate⟩) (.error .noAlternatives)
    exact hsatisfied.ofOperator hD

/-! ### Literals -/

/-- The scalars are of one type, and all scalars are compared with them alike. -/
structure Scalar.Interchangeable (s t : Scalar) : Prop where
  /-- They are literals of one kind. -/
  kind_eq : (Criterion.literal s).kind = (Criterion.literal t).kind
  /-- They are bounds for the same scalars. -/
  compare_eq : ∀ a : Scalar, a.compare s = a.compare t

theorem Scalar.interchangeable_refl (s : Scalar) : s.Interchangeable s := ⟨rfl, fun _ => rfl⟩

/-- What is no null is equal to what compares as equal to it. -/
theorem Scalar.strictEq_of_ne_null {s : Scalar} (h : s ≠ null) (a : Scalar) :
    a.strictEq s = (a.compare s == some .eq) := by
  cases s with
  | null => exact absurd rfl h
  | bool _ | number _ | string _ => cases a <;> rfl

/-- What is compared alike is equal to the same scalars: null is told by its type. -/
theorem Scalar.Interchangeable.strictEq_eq {s t : Scalar} (h : s.Interchangeable t) (a : Scalar) :
    a.strictEq s = a.strictEq t := by
  have hkind := h.kind_eq
  by_cases hs : s = null
  · subst hs
    have ht : t = null := by cases t <;> first | rfl | cases hkind
    rw [ht]
  · have ht : t ≠ null := by
      rintro rfl
      cases s <;> first | exact hs rfl | cases hkind
    rw [strictEq_of_ne_null hs, strictEq_of_ne_null ht, h.compare_eq]

theorem isScalar_eq {s t : Scalar} (h : s.Interchangeable t)
    (hitem : x.bind Value.scalar? = y.bind Value.scalar?) : isScalar x s = isScalar y t := by
  rw [isScalar, isScalar, hitem, funext h.strictEq_eq]

/-- An operator that searches no list tests its operand for its kind and its literal, and the item
for whether it is there and which scalar it is. -/
theorem Operator.test_eq (hkind : c.kind = d.kind)
    (hscalar : Option.Rel Scalar.Interchangeable c.scalar? d.scalar?)
    (hsome : x.isSome = y.isSome) (hitem : x.bind Value.scalar? = y.bind Value.scalar?)
    (op : Operator) : op.test c x = op.test d y := by
  unfold test
  generalize c.scalar? = s at hscalar ⊢
  generalize d.scalar? = t at hscalar ⊢
  cases hscalar with
  | none => cases op <;> simp only [hkind, hsome]
  | some hst =>
    cases op <;> simp only [hkind, hsome, hitem, hst.compare_eq, isScalar_eq hst hitem]

/-! ### Criteria that differ in literals -/

/-- The second criterion is the first one with `like` literals in place of its own, at any depth. -/
inductive Criterion.Restates (like : Scalar → Scalar → Prop) : Criterion → Criterion → Prop
  /-- A literal may be replaced. -/
  | literal {s t : Scalar} : like s t → Restates like (.literal s) (.literal t)
  /-- A pattern stays. -/
  | pattern (p : Pattern) : Restates like (.pattern p) (.pattern p)
  /-- The elements of a list are restated in order. -/
  | list {cs ds : List Criterion} : List.Forall₂ (Restates like) cs ds →
      Restates like (.list cs) (.list ds)
  /-- What stands under a key is restated under the same key. -/
  | nested {entries others : Criteria} : Fields.keys entries = Fields.keys others →
      List.Forall₂ (fun e f => Restates like e.2 f.2) entries others →
      Restates like (.nested entries) (.nested others)

variable {like : Scalar → Scalar → Prop}

theorem Criterion.restates_refl (h : ∀ s, like s s) (c : Criterion) : c.Restates like c := by
  induction c with
  | literal s => exact .literal (h s)
  | pattern p => exact .pattern p
  | list cs ih => exact .list (List.forall₂_same.mpr ih)
  | nested entries ih => exact .nested rfl (List.forall₂_same.mpr ih)

/-! ### Items that look the same -/

/-- Related items look the same, and so does whatever they are looked into for. -/
structure Bisimulation (R : Option Value → Option Value → Prop) : Prop where
  /-- There is an item on both sides or on none. -/
  isSome_eq {x y : Option Value} : R x y → x.isSome = y.isSome
  /-- Both are the same scalar or none. -/
  scalar?_eq {x y : Option Value} : R x y → x.bind Value.scalar? = y.bind Value.scalar?
  /-- What stands under a key is related, -/
  field {x y : Option Value} : R x y → ∀ key,
    R (x.bind (Value.field? key)) (y.bind (Value.field? key))
  /-- and so are the members, position by position, -/
  members {x y : Option Value} : R x y →
    List.Forall₂ (fun v w => R (some v) (some w)) (membersOf x) (membersOf y)
  /-- and the positions behind them, where there is nothing. -/
  missing : R none none

theorem bisimulation_eq : Bisimulation Eq where
  isSome_eq := by rintro x _ rfl; rfl
  scalar?_eq := by rintro x _ rfl; rfl
  field := by rintro x _ rfl key; rfl
  members := by rintro x _ rfl; exact List.forall₂_same.mpr fun v _ => rfl
  missing := rfl

section

variable {R : Option Value → Option Value → Prop} (hR : Bisimulation R)

include hR

namespace Bisimulation

theorem resolve (h : R x y) (path : String) :
    R (Path.resolve x path) (Path.resolve y path) := by
  rw [Path.resolve, Path.resolve]
  induction Path.keys path generalizing x y with
  | nil => exact h
  | cons key keys ih => exact ih (hR.field h key)

theorem text?_eq (h : R x y) : x.bind Value.text? = y.bind Value.text? := by
  -- A text is a scalar, so it is seen where the scalar is.
  have htext (z : Option Value) :
      z.bind Value.text? = (z.bind Value.scalar?).bind fun s => (Value.scalar s).text? := by
    rcases z with _ | (_ | _ | _) <;> rfl
  rw [htext, htext, hR.scalar?_eq h]

end Bisimulation

/-! ### Side by side -/

namespace Criterion

omit hR in
/-- The criteria are evaluated alike on related items, with dispatches on related items. -/
def EvaluatedAlike (R : Option Value → Option Value → Prop) (c d : Criterion) : Prop :=
  ∀ x y, R x y → (c.evaluate x).AlikeOn R (d.evaluate y)

theorem EvaluatedAlike.found (h : c.EvaluatedAlike R d) (hxy : R x y) :
    (c.found x).AlikeOn R (d.found y) := by
  rw [found_eq_any, found_eq_any]
  exact (h x y hxy).orElse (alike_any ((hR.members hxy).imp fun v w => h (some v) (some w)))

theorem evaluateEach_alike (h : List.Forall₂ (EvaluatedAlike R) cs ds) {vs ws : List Value}
    (hvw : List.Forall₂ (fun v w => R (some v) (some w)) vs ws) :
    (evaluateEach cs vs).AlikeOn R (evaluateEach ds ws) := by
  induction h generalizing vs ws with
  | nil => exact alike_of rfl
  | cons hcd _ ih =>
    cases hvw with
    | nil => exact (hcd none none hR.missing).andThen (ih .nil)
    | cons hv hvw => exact (hcd _ _ hv).andThen (ih hvw)

/-- Entries of the same key say the same, as operands or as what is asked at a path. -/
theorem evaluateAt_alike {key : String} (hevaluate : c.EvaluatedAlike R d)
    (happly : ∀ op : Operator, (op.apply c x).AlikeOn R (op.apply d y))
    (hxy : R x y) : (c.evaluateAt key x).AlikeOn R (d.evaluateAt key y) := by
  cases hkey : Operator.ofKey? key with
  | some op =>
    rw [evaluateAt_operator hkey, evaluateAt_operator hkey]
    exact happly op
  | none =>
    rw [evaluateAt_path hkey, evaluateAt_path hkey]
    exact hevaluate _ _ (hR.resolve hxy key)

variable (hlike : ∀ s t, like s t → s.Interchangeable t)

include hlike

omit hR in
theorem Restates.kind_eq (h : c.Restates like d) : c.kind = d.kind := by
  cases h with
  | literal hst => exact (hlike _ _ hst).kind_eq
  | pattern | list | nested => rfl

omit hR in
theorem Restates.scalar?_rel (h : c.Restates like d) :
    Option.Rel Scalar.Interchangeable c.scalar? d.scalar? := by
  cases h with
  | literal hst => exact .some (hlike _ _ hst)
  | pattern | list | nested => exact .none

/-- As operands the criteria are of the same use, if the elements go alike where they are lists. -/
theorem Restates.apply_alike (h : c.Restates like d) (hxy : R x y)
    (helements : ∀ cs ds, c = .list cs → d = .list ds →
      List.Forall₂ (GoesLike (Dispatch.OnRelated R) x y) cs ds)
    (op : Operator) : (op.apply c x).AlikeOn R (op.apply d y) := by
  have hD (o : Operator) (_ : o ∈ op.chain) : Dispatch.OnRelated R ⟨o, x⟩ ⟨o, y⟩ := ⟨rfl, hxy⟩
  have hsome := hR.isSome_eq hxy
  have htest := op.test_eq (h.kind_eq hlike) (h.scalar?_rel hlike) hsome (hR.scalar?_eq hxy)
  cases h with
  | @list cs ds => exact Operator.apply_list_alike hD hsome (helements cs ds rfl rfl)
  | literal | pattern | nested =>
    rw [Operator.apply_of_list?_eq_none op rfl, Operator.apply_of_list?_eq_none op rfl]
    exact (alike_of htest).ofOperator hD

/-- Both readings of the criteria at once: as something asked of an item, and as operands. -/
theorem Restates.alike (h : c.Restates like d) :
    c.EvaluatedAlike R d ∧ ∀ (op : Operator) x y, R x y →
      (op.apply c x).AlikeOn R (op.apply d y) := by
  induction c generalizing d with
  | literal s =>
    refine ⟨fun x y hxy => ?_, fun op x y hxy => h.apply_alike hR hlike hxy (by simp) op⟩
    cases h with
    | literal hst =>
      have hscalar := isScalar_eq (hlike _ _ hst) (hR.scalar?_eq hxy)
      exact alike_of (congrArg Verdict.ofBool hscalar)
  | pattern p =>
    refine ⟨fun x y hxy => ?_, fun op x y hxy => h.apply_alike hR hlike hxy (by simp) op⟩
    cases h with
    | pattern =>
      rw [evaluate, evaluate, hR.text?_eq hxy]
      exact alike_of rfl
  | list cs ih =>
    cases h with
    | @list _ ds hcs =>
      have hboth := (List.forall₂_and_left cs ds).mpr ⟨fun c hc => @ih c hc, hcs⟩
      have halike : List.Forall₂ (EvaluatedAlike R) cs ds :=
        hboth.imp fun c d ⟨hc, hcd⟩ => (hc hcd).1
      refine ⟨fun x y hxy => ?_, fun op x y hxy => ?_⟩
      · rw [evaluate_list, evaluate_list]
        exact evaluateEach_alike hR halike (hR.members hxy)
      · refine Operator.apply_list_alike (fun _ _ => ⟨rfl, hxy⟩) (hR.isSome_eq hxy)
          (hcs.mp (fun c d hcd h => ?_) halike)
        exact ⟨hcd.kind_eq hlike, h x y hxy, h.found hR hxy⟩
  | nested entries ih =>
    refine ⟨fun x y hxy => ?_, fun op x y hxy => h.apply_alike hR hlike hxy (by simp) op⟩
    cases h with
    | @nested _ others hkeys hcs =>
      have hboth := (List.forall₂_and_left entries others).mpr ⟨fun e he => @ih e he, hcs⟩
      rw [evaluate_nested, evaluate_nested, Criteria.evaluate_eq_all, Criteria.evaluate_eq_all]
      refine alike_all ((map_eq_map_iff_forall₂.mp hkeys).mp (fun e f hkey ⟨he, hef⟩ => ?_) hboth)
      obtain ⟨hevaluate, happly⟩ := he hef
      rw [hkey]
      exact evaluateAt_alike hR hevaluate (fun op => happly op x y hxy) hxy

end Criterion

end

/-- On one item, a criterion and one that restates it with interchangeable literals are alike. -/
theorem Criterion.Restates.same (h : c.Restates like d)
    (hlike : ∀ s t, like s t → s.Interchangeable t) (item : Option Value) :
    c.evaluate item = d.evaluate item ∧ c.found item = d.found item ∧
      ∀ op : Operator, op.apply c item = op.apply d item := by
  have heq {e f : Evaluation} (h : e.AlikeOn Eq f) : e = f :=
    (h.mono fun _ _ => Dispatch.OnRelated.eq).eq
  obtain ⟨hevaluate, happly⟩ := h.alike bisimulation_eq hlike
  exact ⟨heq (hevaluate item item rfl), heq (hevaluate.found bisimulation_eq rfl),
    fun op => heq (happly op item item rfl)⟩

end RecordSieve
