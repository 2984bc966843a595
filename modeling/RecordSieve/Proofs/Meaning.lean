import RecordSieve.Proofs.Criterion
import RecordSieve.Proofs.Matching
import RecordSieve.Proofs.Shape

/-!
# What criteria mean

The evaluator walks along criteria in order, leaves early, and lets errors take the place of
answers. What criteria *mean* knows none of that: `Criterion.Holds` is a proposition about an item,
put together by "and", "or" and "not" over all entries, positions, candidates and members at once,
in no order.

**`evaluate_decides`** says that for well-shaped criteria the two agree on every item, a missing
one included: the evaluation ends with a yes or a no, never with an error, and it is a yes exactly
where the criterion holds.
-/

namespace RecordSieve

open Evaluation

/-! ### The meaning -/

/-- What an item has at a position; only arrays have positions. -/
def memberAt : Option Value → Nat → Option Value
  | some (.array vs), i => vs[i]?
  | _, _ => none

/-- The item is a scalar that stands to `s` in one of some orders. -/
def StandsIn (orders : List Ordering) (item : Option Value) (s : Scalar) : Prop :=
  ∃ t o, item = some (.scalar t) ∧ t.compare s = some o ∧ o ∈ orders

/-- The item is a scalar equal to `s`. -/
def Equals (item : Option Value) (s : Scalar) : Prop :=
  ∃ t, item = some (.scalar t) ∧ t.strictEq s = true

mutual

/-- What a criterion says of an item. -/
def Criterion.Holds : Criterion → Option Value → Prop
  | .literal s, item => Equals item s
  | .pattern p, item => ∃ text, item = some (.scalar (.string text)) ∧ p.accepts text = true
  | .list cs, item => ∀ i (c : Criterion), cs[i]? = some c → c.Holds (memberAt item i)
  | .nested entries, item => ∀ key (c : Criterion), (key, c) ∈ entries → c.HoldsAt key item
termination_by c => (sizeOf c, 0)
decreasing_by
  · have := List.sizeOf_lt_of_mem (List.mem_of_getElem? ‹_›)
    simp_wf
    omega
  · have := List.sizeOf_lt_of_mem ‹_ ∈ entries›
    simp_wf
    simp at this
    omega

/-- What a criterion that stands under a key says of an item. -/
def Criterion.HoldsAt (c : Criterion) (key : String) (item : Option Value) : Prop :=
  match Operator.ofKey? key with
  | some op => op.Holds c item
  | none => c.Holds (Path.resolve item key)
termination_by (sizeOf c, 2)

/-- A criterion is found in an item: it holds of the item or of a member of it. -/
def Criterion.HoldsWithin (c : Criterion) (item : Option Value) : Prop :=
  c.Holds item ∨ ∃ vs v, item = some (.array vs) ∧ v ∈ vs ∧ c.Holds (some v)
termination_by (sizeOf c, 1)

/-- What an operator with an operand says of an item; nothing, if it cannot use the operand. -/
def Operator.Holds : Operator → Criterion → Option Value → Prop
  | .greater, .literal s, item => StandsIn [.gt] item s
  | .atLeast, .literal s, item => StandsIn [.gt, .eq] item s
  | .less, .literal s, item => StandsIn [.lt] item s
  | .atMost, .literal s, item => StandsIn [.lt, .eq] item s
  | .unequal, .literal s, item => ¬Equals item s
  | .present, _, item => item ≠ none
  | .oneOf, .list cs, item => ∃ c, ∃ _ : c ∈ cs, c.HoldsWithin item
  | .noneOf, .list cs, item => ¬∃ c, ∃ _ : c ∈ cs, c.HoldsWithin item
  | .allOf, .list cs, item => ∀ c ∈ cs, c.HoldsWithin item
  | .either, .list cs, item => ∃ c, ∃ _ : c ∈ cs, c.Holds item
  | _, _, _ => False
termination_by _ c => (sizeOf c, 1)

end

/-! ### The evaluator and the meaning -/

/-- On every item, the evaluation of the criterion decides what the criterion says. -/
def Criterion.Meant (c : Criterion) : Prop := ∀ item, (c.evaluate item).Decides (c.Holds item)

theorem memberAt_eq (item : Option Value) (i : Nat) : memberAt item i = (membersOf item)[i]? := by
  rcases item with _ | (_ | _ | _) <;> simp [memberAt, membersOf, Value.members]

theorem isScalar_iff (item : Option Value) (s : Scalar) : isScalar item s = true ↔ Equals item s := by
  rcases item with _ | (_ | _ | _) <;> simp [isScalar, Equals, Value.scalar?]

theorem any_allows_iff {op : Operator} {orders : List Ordering}
    (h : ∀ o, op.allows o = true ↔ o ∈ orders) (item : Option Value) (s : Scalar) :
    ((item.bind Value.scalar?).bind (·.compare s)).any op.allows = true ↔
      StandsIn orders item s := by
  rcases item with _ | (t | _ | _)
  · simp [StandsIn]
  · cases hc : t.compare s <;> simp [StandsIn, Value.scalar?, hc, h]
  · simp [StandsIn, Value.scalar?]
  · simp [StandsIn, Value.scalar?]

theorem Criterion.meant_literal (s : Scalar) : (Criterion.literal s).Meant := by
  intro item
  rw [Criterion.Holds]
  exact decides_ofBool (isScalar_iff item s)

theorem Criterion.meant_pattern (p : Pattern) : (Criterion.pattern p).Meant := by
  intro item
  rw [Criterion.Holds]
  refine decides_ofBool ?_
  rcases item with _ | (s | _ | _)
  · simp
  · cases s <;> simp [Value.text?]
  · simp [Value.text?]
  · simp [Value.text?]

theorem Criterion.meant_list {cs : List Criterion} (h : ∀ c ∈ cs, c.Meant) :
    (Criterion.list cs).Meant := by
  intro item
  have hd : (all (cs.zipIdx.map fun x => x.1.evaluate (membersOf item)[x.2]?)).Decides
      (∀ x ∈ cs.zipIdx, x.1.Holds (membersOf item)[x.2]?) :=
    decides_all fun x hx => h x.1 (List.fst_mem_of_mem_zipIdx hx) _
  refine hd.congr ?_ ?_
  · rw [evaluate_list, evaluateEach_eq_all]
  · rw [Criterion.Holds]
    constructor
    · rintro hall ⟨c, i⟩ hx
      rw [← memberAt_eq]
      exact hall i c (List.mk_mem_zipIdx_iff_getElem?.mp hx)
    · intro hall i c hc
      rw [memberAt_eq]
      exact hall (c, i) (List.mk_mem_zipIdx_iff_getElem?.mpr hc)

theorem Criterion.Meant.found {c : Criterion} (h : c.Meant) (item : Option Value) :
    (c.found item).Decides (c.HoldsWithin item) := by
  have hmembers := decides_any fun v (_ : v ∈ membersOf item) => h (some v)
  refine ((h item).orElse hmembers).congr (by rw [found_eq_any]) ?_
  rw [Criterion.HoldsWithin]
  rcases item with _ | (_ | _ | _) <;> simp [membersOf, Value.members]

/-- If there are alternatives, the verdict on the last one is never an error. -/
theorem Criterion.decides_someSatisfied {cs : List Criterion} (hcs : ∀ c ∈ cs, c.criteria?.isSome)
    (h : ∀ c ∈ cs, c.Meant) (item : Option Value) (last : Verdict) (hlast : cs = [] → last = .no) :
    (someSatisfied cs item last).Decides (∃ c ∈ cs, c.Holds item) := by
  induction cs generalizing last with
  | nil => exact ⟨by simp, fun _ => hlast rfl⟩
  | cons c cs ih =>
    obtain ⟨entries, rfl⟩ : ∃ entries, c = .nested entries := by
      have hc := hcs c List.mem_cons_self
      cases c with
      | nested entries => exact ⟨entries, rfl⟩
      | literal _ | pattern _ | list _ => cases hc
    have hfirst := h _ List.mem_cons_self item
    have hrest := ih (fun d hd => hcs d (List.mem_cons_of_mem _ hd))
      (fun d hd => h d (List.mem_cons_of_mem _ hd)) .no fun _ => rfl
    refine (hfirst.orElse hrest).congr ?_ (by simp)
    rw [someSatisfied, verdict_unlessYes, verdict_orElse, evaluate_nested]
    by_cases hp : (Criterion.nested entries).Holds item
    · rw [← evaluate_nested, hfirst.1 hp]
      simp
    · rw [← evaluate_nested, hfirst.2 hp]
      simp

theorem Operator.decides_present (operand : Criterion) (item : Option Value) :
    (Operator.present.apply operand item).Decides (Operator.present.Holds operand item) := by
  refine (decides_ofBool (b := item.isSome) (P := item ≠ none) ?_).congr ?_ ?_
  · cases item <;> simp
  · cases operand <;> rfl
  · rw [Operator.Holds]

/-- A comparison decides whether the item stands to the literal as the operator says. -/
theorem Operator.decides_scalar {op : Operator} (hop : op.expects = some .scalar) (s : Scalar)
    (item : Option Value) :
    (op.apply (.literal s) item).Decides (op.Holds (.literal s) item) := by
  cases op with
  | greater | atLeast | less | atMost =>
    rw [Operator.Holds]
    exact (decides_ofBool (any_allows_iff (by decide) item s)).congr rfl Iff.rfl
  | unequal =>
    rw [Operator.Holds]
    refine (decides_ofBool (b := !isScalar item s) ?_).congr rfl Iff.rfl
    simp [← isScalar_iff]
  | present | oneOf | noneOf | allOf | either => cases hop

/-- A membership operator decides whether its candidates are found. -/
theorem Operator.decides_list {op : Operator} (hop : op.expects = some .list)
    {cs : List Criterion} (h : ∀ c ∈ cs, c.Meant) (item : Option Value) :
    (op.apply (.list cs) item).Decides (op.Holds (.list cs) item) := by
  have hsome : (Criterion.someFound cs item).Decides (∃ c ∈ cs, c.HoldsWithin item) := by
    rw [Criterion.someFound_eq_any]
    exact decides_any fun c hc => ((h c hc).found item).lenient
  have hevery : (Criterion.everyFound cs item).Decides (∀ c ∈ cs, c.HoldsWithin item) := by
    rw [Criterion.everyFound_eq_all]
    exact decides_all fun c hc => (h c hc).found item
  cases op with
  | oneOf => exact hsome.congr rfl (by rw [Operator.Holds]; simp)
  | noneOf => exact hsome.negated.congr rfl (by rw [Operator.Holds]; simp)
  | allOf => exact hevery.congr rfl (by rw [Operator.Holds])
  | greater | atLeast | less | atMost | unequal | present | either => cases hop

/-- The choice decides whether one of its alternatives holds. -/
theorem Operator.decides_listOfCriteria {cs : List Criterion} (hne : cs ≠ [])
    (hcs : ∀ c ∈ cs, c.criteria?.isSome) (h : ∀ c ∈ cs, c.Meant) (item : Option Value) :
    (Operator.either.apply (.list cs) item).Decides (Operator.either.Holds (.list cs) item) :=
  (Criterion.decides_someSatisfied hcs h item _ fun hnil => absurd hnil hne).congr rfl
    (by rw [Operator.Holds]; simp)

/-- An operator that can use its operand decides what it says of an item, as soon as the
well-shaped criteria in the operand are decided. -/
theorem Operator.Takes.decides {op : Operator} {operand : Criterion} (h : op.Takes operand)
    (ih : ∀ cs, operand = .list cs → ∀ c ∈ cs, c.WellShaped → c.Meant) (item : Option Value) :
    (op.apply operand item).Decides (op.Holds operand item) := by
  cases h with
  | anything c hop =>
    obtain rfl : op = .present := by cases op <;> trivial
    exact decides_present operand item
  | scalar s hop => exact decides_scalar hop s item
  | @list _ cs hop hcs => exact decides_list hop (fun c hc => ih cs rfl c hc (hcs c hc)) item
  | @listOfCriteria _ cs hop hne hnested hcs =>
    obtain rfl : op = .either := by cases op <;> trivial
    exact decides_listOfCriteria hne hnested (fun c hc => ih cs rfl c hc (hcs c hc)) item

/-- What stands under the key of an operator is decided as its operand, and all else as such. -/
theorem Criterion.meant_nested {entries : Criteria} (h : (Criterion.nested entries).WellShaped)
    (hc : ∀ e ∈ entries, e.2.WellShaped → e.2.Meant)
    (hop : ∀ e ∈ entries, ∀ op : Operator, op.Takes e.2 → ∀ item,
      (op.apply e.2 item).Decides (op.Holds e.2 item)) : (Criterion.nested entries).Meant := by
  intro item
  cases h with
  | nested htakes hshaped =>
    have hentry : ∀ e ∈ entries, (e.2.evaluateAt e.1 item).Decides (e.2.HoldsAt e.1 item) := by
      intro e he
      rw [Criterion.HoldsAt]
      cases hkey : Operator.ofKey? e.1 with
      | some op =>
        rw [evaluateAt_operator hkey]
        exact hop e he op (htakes e.1 op e.2 he hkey) item
      | none =>
        rw [evaluateAt_path hkey]
        exact hc e he (hshaped e.1 e.2 he hkey) _
    refine (decides_all hentry).congr ?_ ?_
    · rw [evaluate_nested, Criteria.evaluate_eq_all]
    · rw [Criterion.Holds]
      simp

/-- Both readings of a criterion at once: as something asked of an item, and as an operand. -/
theorem Criterion.meant_of_wellShaped (c : Criterion) :
    (c.WellShaped → c.Meant) ∧
      ∀ op : Operator, op.Takes c → ∀ item, (op.apply c item).Decides (op.Holds c item) := by
  induction c with
  | literal s => exact ⟨fun _ => meant_literal s, fun op h => h.decides (by simp)⟩
  | pattern p => exact ⟨fun _ => meant_pattern p, fun op h => h.decides (by simp)⟩
  | list cs ih =>
    refine ⟨fun h => ?_, fun op h => h.decides fun ds hds => ?_⟩
    · cases h with
      | list hcs => exact meant_list fun c hc => (ih c hc).1 (hcs c hc)
    · cases hds
      exact fun c hc => (ih c hc).1
  | nested entries ih =>
    exact ⟨fun h => meant_nested h (fun e he => (ih e he).1) fun e he => (ih e he).2,
      fun op h => h.decides (by simp)⟩

theorem Criterion.WellShaped.meant {c : Criterion} (h : c.WellShaped) : c.Meant :=
  c.meant_of_wellShaped.1 h

/-- **What the evaluator answers is what the criteria mean**: a well-shaped criterion is evaluated
without an error on every item, and the answer is yes exactly if the criterion holds. -/
theorem evaluate_decides (c : Criterion) (h : c.WellShaped) (item : Option Value) :
    ∃ b : Bool, (c.evaluate item).verdict = .ofBool b ∧ (b = true ↔ c.Holds item) := by
  obtain ⟨hyes, hno⟩ := (c.meant_of_wellShaped.1 h) item
  by_cases hc : c.Holds item
  · exact ⟨true, hyes hc, by simp [hc]⟩
  · exact ⟨false, hno hc, by simp [hc]⟩

/-- Criteria with two comparisons on one path, candidates that must not be found, and three
alternatives, of which one compares positions. -/
def adult : Criteria :=
  [("age", .nested [("$gte", .literal (.number (.signed 18))), ("$ne", .literal .null)]),
   ("tags", .nested [("$nin", .list [.literal (.string "z"), .list [.literal (.string "y")]])]),
   ("$or", .list [.nested [("name", .literal .null)],
     .nested [("age.years", .nested [("$exists", .list [])])],
     .nested [("tags", .list [.literal (.string "x")])]])]

theorem adult_wellShaped : (Criterion.nested adult).WellShaped := by
  decide +kernel

/-- A record of someone of thirty, held as a double, with two tags. -/
def ann : Value := .object
  [("age", .scalar (.number (.double ⟨0x403E000000000000⟩))),
   ("tags", .array [.scalar (.string "x"), .scalar (.string "w")])]

/-- The evaluation of the criteria on the record says yes, so they hold of it. -/
theorem ann_is_adult :
    (Criterion.nested adult).WellShaped ∧ (Criterion.nested adult).Holds (some ann) := by
  refine ⟨adult_wellShaped, ?_⟩
  obtain ⟨b, hb, hiff⟩ := evaluate_decides (.nested adult) adult_wellShaped (some ann)
  have hyes : ((Criterion.nested adult).evaluate (some ann)).verdict = .yes := by
    decide +kernel
  cases b with
  | true => exact hiff.mp rfl
  | false => rw [hyes] at hb; cases hb

end RecordSieve
