import RecordSieve.Proofs.Meaning

/-!
# Membership

`$in` looks for its elements in an item: in the item itself and, where the item is an array, in
its members one after the other. An error that an element raises counts as a no, so neither `$in`
nor `$nin` ever ends in one.

**`membership_is_existential`** says what is found. A yes of `$in` is owed to an element that the
item or a member of it satisfies, and `$nin` says the opposite. Each such element brings about a
yes if it has raised no error by then, whatever it does on the members behind and whatever the
other elements do. Where no error is raised, the order of the members matters only to elements
that tell apart the two arrays as a whole, for which a list has to be asked of them position by
position.
-/

namespace RecordSieve

open Evaluation

/-! ### Where an element is looked for -/

/-- The item satisfies the criterion. -/
def Criterion.SatisfiedBy (c : Criterion) (item : Option Value) : Prop :=
  (c.evaluate item).verdict = .yes

/-- The criterion raises no error on the item. -/
def Criterion.DecidedOn (c : Criterion) (item : Option Value) : Prop :=
  ∀ cause, (c.evaluate item).verdict ≠ .error cause

/-- The item satisfies the criterion, or it is an array and a member of it does. -/
def Criterion.SatisfiedWithin (c : Criterion) (item : Option Value) : Prop :=
  c.SatisfiedBy item ∨ ∃ v ∈ membersOf item, c.SatisfiedBy (some v)

/-- The criterion raises no error on the item, nor on a member if the item is an array. -/
def Criterion.DecidedWithin (c : Criterion) (item : Option Value) : Prop :=
  c.DecidedOn item ∧ ∀ v ∈ membersOf item, c.DecidedOn (some v)

/-- What a criterion is asked of while it is looked for in an item, in turn. -/
def searched (item : Option Value) : List (Option Value) := item :: (membersOf item).map some

variable {c : Criterion} {cs : List Criterion} {item : Option Value} {vs ws : List Value}

namespace Criterion

theorem found_eq_any_searched (c : Criterion) (item : Option Value) :
    c.found item = any ((searched item).map c.evaluate) := by
  rw [found_eq_any, searched, List.map_cons, any_cons, List.map_map]
  rfl

/-- What is found is satisfied somewhere. -/
theorem satisfiedWithin_of_found (h : (c.found item).verdict = .yes) : c.SatisfiedWithin item := by
  rw [found_eq_any_searched] at h
  obtain ⟨e, he, hyes⟩ := exists_yes_of_verdict_any h
  obtain ⟨x, hx, rfl⟩ := List.mem_map.mp he
  rcases List.mem_cons.mp hx with rfl | hx
  · exact .inl hyes
  · obtain ⟨v, hv, rfl⟩ := List.mem_map.mp hx
    exact .inr ⟨v, hv, hyes⟩

/-- What is satisfied is found, unless an error was raised before. -/
theorem found_of_satisfiedBy {before after : List (Option Value)} {x : Option Value}
    (hsearched : searched item = before ++ x :: after) (hbefore : ∀ y ∈ before, c.DecidedOn y)
    (hx : c.SatisfiedBy x) : (c.found item).verdict = .yes := by
  rw [found_eq_any_searched, hsearched, List.map_append, List.map_cons]
  refine verdict_any_of_yes (fun f hf => ?_) hx
  obtain ⟨y, hy, rfl⟩ := List.mem_map.mp hf
  exact hbefore y hy

theorem found_of_satisfiedBy_item (h : c.SatisfiedBy item) : (c.found item).verdict = .yes :=
  @found_of_satisfiedBy c item [] _ item rfl nofun h

theorem found_of_satisfiedBy_member {before after : List Value} {v : Value}
    (hmembers : membersOf item = before ++ v :: after) (hdecided : c.DecidedOn item)
    (hbefore : ∀ u ∈ before, c.DecidedOn (some u)) (hv : c.SatisfiedBy (some v)) :
    (c.found item).verdict = .yes := by
  have hsearched : searched item = (item :: before.map some) ++ some v :: after.map some := by
    simp [searched, hmembers]
  refine found_of_satisfiedBy hsearched (fun y hy => ?_) hv
  rcases List.mem_cons.mp hy with rfl | hy
  · exact hdecided
  · obtain ⟨u, hu, rfl⟩ := List.mem_map.mp hy
    exact hbefore u hu

/-- Without errors, what is satisfied somewhere is found. -/
theorem found_iff_satisfiedWithin (h : c.SatisfiedWithin item → c.DecidedWithin item) :
    (c.found item).verdict = .yes ↔ c.SatisfiedWithin item := by
  refine ⟨satisfiedWithin_of_found, fun hsatisfied => ?_⟩
  obtain ⟨hitem, hmembers⟩ := h hsatisfied
  rcases hsatisfied with hyes | ⟨v, hv, hyes⟩
  · exact found_of_satisfiedBy_item hyes
  · obtain ⟨before, after, hsplit⟩ := List.append_of_mem hv
    refine found_of_satisfiedBy_member hsplit hitem (fun u hu => hmembers u ?_) hyes
    exact hsplit ▸ List.mem_append_left _ hu

/-- The search goes on until an element is found; errors do not end it. -/
theorem decides_someFound (cs : List Criterion) (item : Option Value) :
    (someFound cs item).Decides (∃ c ∈ cs, (c.found item).verdict = .yes) := by
  rw [someFound_eq_any]
  exact decides_any fun c _ => decides_lenient (c.found item)

end Criterion

theorem Operator.decides_oneOf (cs : List Criterion) (item : Option Value) :
    (Operator.oneOf.apply (.list cs) item).Decides
      (∃ c ∈ cs, (c.found item).verdict = .yes) :=
  (Criterion.decides_someFound cs item).congr (Operator.verdict_apply_list _ cs item) Iff.rfl

theorem Operator.verdict_noneOf (cs : List Criterion) (item : Option Value) :
    (Operator.noneOf.apply (.list cs) item).verdict =
      (Operator.oneOf.apply (.list cs) item).verdict.negated := by
  rw [Operator.verdict_apply_list, Operator.verdict_apply_list]

/-! ### The order of the members -/

/-- The criterion does not ask an array for its positions: no list is asked of the item itself.
What stands under a path is asked of something else, as no path leads into an array. -/
inductive Criterion.Orderless : Criterion → Prop
  | literal (s : Scalar) : Criterion.Orderless (.literal s)
  | pattern (p : Pattern) : Criterion.Orderless (.pattern p)
  /-- A list without elements asks for no positions. -/
  | empty : Criterion.Orderless (.list [])
  /-- The elements of an operand are asked of the item, unless the operand is ignored. -/
  | nested {entries : Criteria} :
      (∀ key op cs, (key, .list cs) ∈ entries → Operator.ofKey? key = some op → op ≠ .present →
        ∀ c ∈ cs, Criterion.Orderless c) → Criterion.Orderless (.nested entries)

theorem Criterion.holdsWithin_perm (hperm : vs.Perm ws)
    (h : c.Holds (some (.array vs)) ↔ c.Holds (some (.array ws))) :
    c.HoldsWithin (some (.array vs)) ↔ c.HoldsWithin (some (.array ws)) := by
  rw [Criterion.HoldsWithin, Criterion.HoldsWithin, h]
  simp [hperm.mem_iff]

/-- What an operator says of an array is a matter of what its members are, as long as that is so of
the elements of the operand. -/
theorem Operator.holds_perm (hperm : vs.Perm ws) (op : Operator) (operand : Criterion)
    (h : ∀ cs, operand = .list cs → op ≠ .present → ∀ c ∈ cs,
      (c.Holds (some (.array vs)) ↔ c.Holds (some (.array ws)))) :
    op.Holds operand (some (.array vs)) ↔ op.Holds operand (some (.array ws)) := by
  cases operand with
  | list cs =>
    have hcs (hop : op ≠ .present) (c : Criterion) (hc : c ∈ cs) := h cs rfl hop c hc
    have hwithin (hop : op ≠ .present) (c : Criterion) (hc : c ∈ cs) :=
      Criterion.holdsWithin_perm hperm (hcs hop c hc)
    cases op <;> simp only [Operator.Holds] <;> grind
  | literal s => cases op <;> simp [Operator.Holds, StandsIn, Equals]
  | pattern p => cases op <;> simp [Operator.Holds]
  | nested entries => cases op <;> simp [Operator.Holds]

/-- What a criterion says of an array without asking for positions is a matter of what its members
are. -/
theorem Criterion.Orderless.holds_perm (h : c.Orderless) (hperm : vs.Perm ws) :
    c.Holds (some (.array vs)) ↔ c.Holds (some (.array ws)) := by
  induction h with
  | literal s => simp [Criterion.Holds, Equals]
  | pattern p => simp [Criterion.Holds]
  | empty => simp [Criterion.Holds]
  | @nested entries _ ih =>
    rw [Criterion.Holds, Criterion.Holds]
    refine forall_congr' fun key => forall_congr' fun c => forall_congr' fun he => ?_
    rw [Criterion.HoldsAt, Criterion.HoldsAt]
    cases hkey : Operator.ofKey? key with
    | none => rw [Path.resolve_array, Path.resolve_array]
    | some op =>
      refine Operator.holds_perm hperm op c ?_
      rintro cs rfl
      exact ih key op cs he hkey

/-! ### What is found -/

/-- Without errors, an element says of two arrays with the same members whether one of them
satisfies it, as long as it does not tell the arrays themselves apart. -/
theorem Criterion.found_perm (hperm : vs.Perm ws) (hdecided : c.DecidedWithin (some (.array vs)))
    (hwhole : (c.evaluate (some (.array vs))).verdict = (c.evaluate (some (.array ws))).verdict) :
    (c.found (some (.array vs))).verdict = .yes ↔ (c.found (some (.array ws))).verdict = .yes := by
  have hdecided' : c.DecidedWithin (some (.array ws)) :=
    ⟨fun cause => hwhole ▸ hdecided.1 cause, fun v hv => hdecided.2 v (hperm.mem_iff.mpr hv)⟩
  rw [found_iff_satisfiedWithin fun _ => hdecided, found_iff_satisfiedWithin fun _ => hdecided',
    SatisfiedWithin, SatisfiedWithin, SatisfiedBy, SatisfiedBy, hwhole]
  exact or_congr_right (exists_congr fun v => and_congr_left fun _ => hperm.mem_iff)

theorem Criterion.Meant.decidedOn (h : c.Meant) (item : Option Value) : c.DecidedOn item := by
  intro cause hcause
  rcases (h item).yes_or_no with hv | hv <;> rw [hv] at hcause <;> cases hcause

/-- **`$in` asks for an element that is satisfied somewhere, and `$nin` for none.** -/
theorem membership_is_existential (cs : List Criterion) (item : Option Value) :
    -- Neither ends in an error, whatever the elements are, and they are opposites.
    (∃ b, (Operator.oneOf.apply (.list cs) item).verdict = .ofBool b ∧
      (Operator.noneOf.apply (.list cs) item).verdict = .ofBool !b) ∧
    -- A yes is owed to an element that the item or a member satisfies.
    ((Operator.oneOf.apply (.list cs) item).verdict = .yes → ∃ c ∈ cs, c.SatisfiedWithin item) ∧
    -- An element that the item satisfies brings about a yes, and so does one that a member
    -- satisfies, if it has not raised an error on the item or on a member before. Its errors on
    -- members behind, and all errors of other elements, count as a no.
    (∀ c ∈ cs, c.SatisfiedBy item → (Operator.oneOf.apply (.list cs) item).verdict = .yes) ∧
    (∀ c ∈ cs, ∀ before v after, membersOf item = before ++ v :: after → c.DecidedOn item →
      (∀ u ∈ before, c.DecidedOn (some u)) → c.SatisfiedBy (some v) →
      (Operator.oneOf.apply (.list cs) item).verdict = .yes) ∧
    ((∀ c ∈ cs, c.SatisfiedWithin item → c.DecidedWithin item) →
      ((Operator.oneOf.apply (.list cs) item).verdict = .yes ↔ ∃ c ∈ cs, c.SatisfiedWithin item)) ∧
    -- The members may come in any other order, where no error is raised and the elements do not
    -- tell the arrays themselves apart. Well-shaped ones that ask for no positions do not.
    (∀ vs ws, item = some (.array vs) → vs.Perm ws →
      (∀ c ∈ cs, c.DecidedWithin item ∧
        (c.evaluate (some (.array vs))).verdict = (c.evaluate (some (.array ws))).verdict) →
      (Operator.oneOf.apply (.list cs) item).verdict =
        (Operator.oneOf.apply (.list cs) (some (.array ws))).verdict) ∧
    ∀ vs ws, item = some (.array vs) → vs.Perm ws → (∀ c ∈ cs, c.WellShaped ∧ c.Orderless) →
      (Operator.oneOf.apply (.list cs) item).verdict =
        (Operator.oneOf.apply (.list cs) (some (.array ws))).verdict := by
  have hfound := Operator.decides_oneOf cs item
  have hyes {c : Criterion} (hc : c ∈ cs) (h : (c.found item).verdict = .yes) :
      (Operator.oneOf.apply (.list cs) item).verdict = .yes := hfound.1 ⟨c, hc, h⟩
  have hperm (vs ws : List Value) (hitem : item = some (.array vs)) (hperm : vs.Perm ws)
      (hcs : ∀ c ∈ cs, c.DecidedWithin item ∧
        (c.evaluate (some (.array vs))).verdict = (c.evaluate (some (.array ws))).verdict) :
      (Operator.oneOf.apply (.list cs) item).verdict =
        (Operator.oneOf.apply (.list cs) (some (.array ws))).verdict := by
    subst hitem
    refine hfound.verdict_eq (Operator.decides_oneOf cs _) ?_
    exact exists_congr fun c => and_congr_right fun hc =>
      Criterion.found_perm hperm (hcs c hc).1 (hcs c hc).2
  refine ⟨?opposites, fun h => ?owed, fun c hc h => ?whole, fun c hc before v after => ?member,
    fun hdecided => ?decided, hperm, fun vs ws hitem hvs hcs => ?orderless⟩
  case opposites =>
    rw [Operator.verdict_noneOf]
    rcases hfound.yes_or_no with hv | hv
    · exact ⟨true, hv, congrArg Verdict.negated hv⟩
    · exact ⟨false, hv, congrArg Verdict.negated hv⟩
  case owed =>
    obtain ⟨c, hc, hcfound⟩ := hfound.yes_iff.mp h
    exact ⟨c, hc, Criterion.satisfiedWithin_of_found hcfound⟩
  case whole => exact hyes hc (Criterion.found_of_satisfiedBy_item h)
  case member =>
    intro hmembers hitem hbefore hv
    exact hyes hc (Criterion.found_of_satisfiedBy_member hmembers hitem hbefore hv)
  case decided =>
    rw [hfound.yes_iff]
    exact exists_congr fun c => and_congr_right fun hc =>
      Criterion.found_iff_satisfiedWithin (hdecided c hc)
  case orderless =>
    refine hperm vs ws hitem hvs fun c hc => ?_
    obtain ⟨hshaped, horderless⟩ := hcs c hc
    have hdecided := hshaped.meant.decidedOn
    exact ⟨⟨hdecided item, fun v _ => hdecided (some v)⟩,
      (hshaped.meant _).verdict_eq (hshaped.meant _) (horderless.holds_perm hvs)⟩

/-- An element that compares a number with a bound and, failing that, with what is no bound. -/
def overTen : Criterion :=
  .nested [("$or", .list [.nested [("$gt", .literal (.number (.signed 10)))],
    .nested [("$lt", .nested [])]])]

/-- The order of the members matters to a list that is asked of the array, and a member that
satisfies an element does not help after an error on the array. -/
theorem membership_is_not_existential :
    (Operator.oneOf.apply (.list [.list [.literal (.string "x")]])
      (some (.array [.scalar (.string "x"), .scalar (.string "y")]))).verdict = .yes ∧
    (Operator.oneOf.apply (.list [.list [.literal (.string "x")]])
      (some (.array [.scalar (.string "y"), .scalar (.string "x")]))).verdict = .no ∧
    overTen.SatisfiedBy (some (.scalar (.number (.signed 20)))) ∧
    (Operator.oneOf.apply (.list [overTen])
      (some (.array [.scalar (.number (.signed 20))]))).verdict = .no := by
  have htwenty : (overTen.evaluate (some (.scalar (.number (.signed 20))))).verdict = .yes := by
    decide +kernel
  exact ⟨by decide +kernel, by decide +kernel, htwenty, by decide +kernel⟩

end RecordSieve
