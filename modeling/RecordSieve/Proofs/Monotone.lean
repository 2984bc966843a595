import RecordSieve.Proofs.Extension
import RecordSieve.Proofs.Queries

/-!
# Criteria that only ask for more

Most of what criteria say of an item is that something is there: a scalar at a path, a member that
is equal to a candidate, an item in order to a bound. Only two operators say that something is
*not* there, the negated equality and the negated membership. Without them, what holds of an item
holds of all its extensions.

This is shown of the meaning of criteria (`Criterion.Persistent`), by induction on the criterion:
each part of the meaning asks for parts of the item, and the extension has extensions of them at
the same places. **`yes_of_extendsTo`** says it of the evaluation of well-shaped criteria, and of
the hits among records that grow.
-/

namespace RecordSieve

/-! ### The operators in criteria -/

mutual

/-- The operators that stand anywhere in a criterion. -/
def Criterion.operators : Criterion → List Operator
  | .literal _ => []
  | .pattern _ => []
  | .list cs => Criterion.operatorsIn cs
  | .nested entries => Criteria.operators entries
termination_by structural c => c

/-- The operators that stand anywhere in some criteria. -/
def Criterion.operatorsIn : List Criterion → List Operator
  | [] => []
  | c :: cs => c.operators ++ Criterion.operatorsIn cs
termination_by structural cs => cs

/-- The operators among keys, and those that stand anywhere under keys. -/
def Criteria.operators : Criteria → List Operator
  | [] => []
  | (key, c) :: entries =>
    (Operator.ofKey? key).toList ++ c.operators ++ Criteria.operators entries
termination_by structural entries => entries

end

/-- No operator of the criterion says that something is not there. -/
def Criterion.Positive (c : Criterion) : Prop :=
  .unequal ∉ c.operators ∧ .noneOf ∉ c.operators

instance : DecidablePred Criterion.Positive :=
  fun c => inferInstanceAs (Decidable (.unequal ∉ c.operators ∧ .noneOf ∉ c.operators))

theorem Criterion.operatorsIn_eq (cs : List Criterion) :
    operatorsIn cs = cs.flatMap operators := by
  induction cs with
  | nil => rfl
  | cons c cs ih => rw [operatorsIn, ih, List.flatMap_cons]

theorem Criteria.operators_eq (entries : Criteria) :
    operators entries =
      entries.flatMap fun e => (Operator.ofKey? e.1).toList ++ e.2.operators := by
  induction entries with
  | nil => rfl
  | cons e entries ih => rw [operators, ih, List.flatMap_cons]

namespace Criterion

variable {cs : List Criterion} {c : Criterion} {entries : Criteria} {key : String} {op : Operator}

theorem Positive.element (h : (Criterion.list cs).Positive) (hc : c ∈ cs) : c.Positive := by
  have hsub : ∀ op ∈ c.operators, op ∈ (Criterion.list cs).operators := by
    intro op hop
    rw [operators, operatorsIn_eq]
    exact List.mem_flatMap.mpr ⟨c, hc, hop⟩
  exact ⟨fun hop => h.1 (hsub _ hop), fun hop => h.2 (hsub _ hop)⟩

theorem Positive.entry (h : (Criterion.nested entries).Positive) (hc : (key, c) ∈ entries) :
    c.Positive ∧ ∀ op, Operator.ofKey? key = some op → op ≠ .unequal ∧ op ≠ .noneOf := by
  have hsub : ∀ op, op ∈ (Operator.ofKey? key).toList ++ c.operators →
      op ∈ (Criterion.nested entries).operators := by
    intro op hop
    rw [operators, Criteria.operators_eq]
    exact List.mem_flatMap.mpr ⟨(key, c), hc, hop⟩
  refine ⟨⟨fun hop => ?_, fun hop => ?_⟩, fun op hkey => ⟨?_, ?_⟩⟩
  · exact h.1 (hsub _ (List.mem_append_right _ hop))
  · exact h.2 (hsub _ (List.mem_append_right _ hop))
  · rintro rfl
    exact h.1 (hsub _ (by simp [hkey]))
  · rintro rfl
    exact h.2 (hsub _ (by simp [hkey]))

/-! ### What holds goes on to hold -/

/-- What the criterion says of an item is true of all extensions of the item as well. -/
def Persistent (c : Criterion) : Prop := ∀ x y, ExtendsTo x y → c.Holds x → c.Holds y

end Criterion

variable {x y : Option Value} {s : Scalar}

theorem Equals.extend (h : Equals x s) (hxy : ExtendsTo x y) : Equals y s := by
  obtain ⟨t, rfl, ht⟩ := h
  exact ⟨t, hxy.eq_scalar, ht⟩

theorem StandsIn.extend {orders : List Ordering} (h : StandsIn orders x s) (hxy : ExtendsTo x y) :
    StandsIn orders y s := by
  obtain ⟨t, o, rfl, ho⟩ := h
  exact ⟨t, o, hxy.eq_scalar, ho⟩

namespace Criterion

theorem persistent_literal (s : Scalar) : (literal s).Persistent := by
  intro x y hxy h
  rw [Holds] at h ⊢
  exact h.extend hxy

theorem persistent_pattern (p : Pattern) : (pattern p).Persistent := by
  intro x y hxy h
  rw [Holds] at h ⊢
  obtain ⟨text, rfl, htext⟩ := h
  exact ⟨text, hxy.eq_scalar, htext⟩

theorem persistent_list {cs : List Criterion} (h : ∀ c ∈ cs, c.Persistent) :
    (list cs).Persistent := by
  intro x y hxy hx
  rw [Holds] at hx ⊢
  exact fun i c hc => h c (List.mem_of_getElem? hc) _ _ (hxy.memberAt i) (hx i c hc)

/-- What is found in an item is found in an extension: in the item itself, or in the member that
extends the one in which it was found. -/
theorem Persistent.within {c : Criterion} (h : c.Persistent) (hxy : ExtendsTo x y)
    (hx : c.HoldsWithin x) : c.HoldsWithin y := by
  rw [HoldsWithin] at hx ⊢
  rcases hx with hx | ⟨vs, v, rfl, hv, hx⟩
  · exact .inl (h x y hxy hx)
  · obtain ⟨ws, w, rfl, hw, hvw⟩ := hxy.exists_mem hv
    exact .inr ⟨ws, w, rfl, hw, h _ _ hvw hx⟩

end Criterion

/-- What an operator says of an item is true of its extensions, unless it says that something is
not there. -/
theorem Operator.holds_extend {op : Operator} {operand : Criterion} (hunequal : op ≠ .unequal)
    (hnone : op ≠ .noneOf) (h : ∀ cs, operand = .list cs → ∀ c ∈ cs, c.Persistent)
    (hxy : ExtendsTo x y) (hx : op.Holds operand x) : op.Holds operand y := by
  cases op with
  | unequal => exact absurd rfl hunequal
  | noneOf => exact absurd rfl hnone
  | present =>
    rw [Operator.Holds] at hx ⊢
    obtain ⟨v, rfl⟩ := Option.ne_none_iff_exists'.mp hx
    exact hxy.ne_none
  | greater | atLeast | less | atMost =>
    cases operand with
    | literal s =>
      rw [Operator.Holds] at hx ⊢
      exact hx.extend hxy
    | pattern _ | list _ | nested _ => simp [Operator.Holds] at hx
  | oneOf =>
    cases operand with
    | list cs =>
      rw [Operator.Holds] at hx ⊢
      obtain ⟨c, hc, hcx⟩ := hx
      exact ⟨c, hc, (h cs rfl c hc).within hxy hcx⟩
    | literal _ | pattern _ | nested _ => simp [Operator.Holds] at hx
  | allOf =>
    cases operand with
    | list cs =>
      rw [Operator.Holds] at hx ⊢
      exact fun c hc => (h cs rfl c hc).within hxy (hx c hc)
    | literal _ | pattern _ | nested _ => simp [Operator.Holds] at hx
  | either =>
    cases operand with
    | list cs =>
      rw [Operator.Holds] at hx ⊢
      obtain ⟨c, hc, hcx⟩ := hx
      exact ⟨c, hc, h cs rfl c hc x y hxy hcx⟩
    | literal _ | pattern _ | nested _ => simp [Operator.Holds] at hx

theorem Criterion.persistent_nested {entries : Criteria}
    (hpositive : (Criterion.nested entries).Positive)
    (hc : ∀ e ∈ entries, e.2.Persistent)
    (hop : ∀ e ∈ entries, ∀ op : Operator, op ≠ .unequal → op ≠ .noneOf →
      ∀ x y, ExtendsTo x y → op.Holds e.2 x → op.Holds e.2 y) :
    (Criterion.nested entries).Persistent := by
  intro x y hxy hx
  rw [Criterion.Holds] at hx ⊢
  intro key c he
  have hkeyx := hx key c he
  rw [Criterion.HoldsAt] at hkeyx ⊢
  cases hkey : Operator.ofKey? key with
  | none =>
    simp only [hkey] at hkeyx ⊢
    exact hc (key, c) he _ _ (hxy.resolve key) hkeyx
  | some op =>
    simp only [hkey] at hkeyx ⊢
    obtain ⟨hunequal, hnone⟩ := (hpositive.entry he).2 op hkey
    exact hop (key, c) he op hunequal hnone x y hxy hkeyx

/-- Both readings of a criterion at once: as something asked of an item, and as an operand. -/
theorem Criterion.persistent_of_positive (c : Criterion) (h : c.Positive) :
    c.Persistent ∧ ∀ op : Operator, op ≠ .unequal → op ≠ .noneOf →
      ∀ x y, ExtendsTo x y → op.Holds c x → op.Holds c y := by
  induction c with
  | literal s =>
    exact ⟨persistent_literal s, fun op hu hn x y => Operator.holds_extend hu hn (by simp)⟩
  | pattern p =>
    exact ⟨persistent_pattern p, fun op hu hn x y => Operator.holds_extend hu hn (by simp)⟩
  | list cs ih =>
    have hcs : ∀ c ∈ cs, c.Persistent := fun c hc => (ih c hc (h.element hc)).1
    refine ⟨persistent_list hcs, fun op hu hn x y => Operator.holds_extend hu hn fun ds hds => ?_⟩
    cases hds
    exact hcs
  | nested entries ih =>
    have hentries := fun e he => ih e he (h.entry he).1
    exact ⟨persistent_nested h (fun e he => (hentries e he).1) fun e he => (hentries e he).2,
      fun op hu hn x y => Operator.holds_extend hu hn (by simp)⟩

/-! ### The evaluation -/

/-- A yes stays a yes when the item is extended. -/
theorem Criterion.Positive.yes_of_yes {c : Criterion} (h : c.Positive) (hshaped : c.WellShaped)
    (hxy : ExtendsTo x y) (hx : (c.evaluate x).verdict = .yes) : (c.evaluate y).verdict = .yes := by
  have hholds := (hshaped.meant x).yes_iff.mp hx
  exact (hshaped.meant y).yes_iff.mpr ((c.persistent_of_positive h).1 x y hxy hholds)

/-- Well-shaped criteria decide every record. -/
theorem Criteria.decided_of_wellShaped {q : Criteria} (h : (Criterion.nested q).WellShaped)
    (r : Value) : q.Decided r := by
  intro cause hcause
  have hanswer := (h.meant (some r)).yes_or_no
  rw [Criterion.evaluate_nested, ← Criteria.verdictOn, hcause] at hanswer
  simp at hanswer

/-- **Criteria that only ask for more go on to be satisfied when a record grows**, and where each
record of a collection has grown, each hit is a hit still, at the same position. -/
theorem yes_of_extendsTo (c : Criterion) (hshaped : c.WellShaped) (hpositive : c.Positive) :
    (∀ x y, ExtendsTo x y → (c.evaluate x).verdict = .yes → (c.evaluate y).verdict = .yes) ∧
    ∀ q : Criteria, c = .nested q → ∀ before after : Collection,
      (∀ i : Nat, ExtendsTo before.records[i]? after.records[i]?) →
      ∃ hits more, (before.sieve q).result = .ok hits ∧ (after.sieve q).result = .ok more ∧
        ∀ hit ∈ hits, ∃ r, ExtendsTo (some hit.record) (some r) ∧ ⟨hit.index, r⟩ ∈ more := by
  refine ⟨fun x y hxy => hpositive.yes_of_yes hshaped hxy, ?_⟩
  rintro q rfl before after hgrown
  have hdecided (c : Collection) : ∀ r ∈ c.records, q.Decided r :=
    fun r _ => Criteria.decided_of_wellShaped hshaped r
  refine ⟨_, _, Collection.result_sieve_of_decided (hdecided before),
    Collection.result_sieve_of_decided (hdecided after), fun hit hhit => ?_⟩
  obtain ⟨hrecord, hyes⟩ := Collection.mem_hitsAmong.mp hhit
  have hextends := hgrown hit.index
  rw [hrecord] at hextends
  obtain ⟨r, hr, hr_extends⟩ := hextends.exists_some
  exact ⟨r, hr_extends,
    Collection.mem_hitsAmong.mpr ⟨hr, hpositive.yes_of_yes hshaped hr_extends hyes⟩⟩

/-- Criteria with a bound, tags that have to be there, and two alternatives. -/
def settled : Criteria :=
  [("age", .nested [("$gte", .literal (.number (.signed 18))), ("$exists", .literal .null)]),
   ("tags", .nested [("$all", .list [.literal (.string "x"), .literal (.string "w")])]),
   ("$or", .list [.nested [("name", .nested [("$in", .list [.literal (.string "Ann")])])],
     .nested [("tags", .list [.literal (.string "x")])]])]

theorem settled_wellShaped : (Criterion.nested settled).WellShaped := by
  decide +kernel

/-- The record of Ann with one more tag and her name. -/
def annNamed : Value := .object <|
  Fields.put "name" (.scalar (.string "Ann")) <|
    Fields.put "tags" (.array ([.scalar (.string "x"), .scalar (.string "w")] ++ [.scalar .null]))
      [("age", .scalar (.number (.double ⟨0x403E000000000000⟩))),
       ("tags", .array [.scalar (.string "x"), .scalar (.string "w")])]

theorem ann_extendsTo_annNamed : ExtendsTo (some ann) (some annNamed) := by
  refine ExtendsTo.trans (ExtendsTo.put ?tags) (ExtendsTo.put (.missing _))
  case tags => exact extendsTo_append _ _

/-- The name makes the alternative true that was false, and it is asked first. -/
theorem annNamed_is_settled :
    (Criterion.nested settled).WellShaped ∧ (Criterion.nested settled).Positive ∧
      ExtendsTo (some ann) (some annNamed) ∧
      ((Criterion.nested settled).evaluate (some ann)).verdict = .yes ∧
      ((Criterion.nested settled).evaluate (some annNamed)).verdict = .yes := by
  have hpositive : (Criterion.nested settled).Positive := by
    decide +kernel
  have hann : ((Criterion.nested settled).evaluate (some ann)).verdict = .yes := by
    decide +kernel
  exact ⟨settled_wellShaped, hpositive, ann_extendsTo_annNamed, hann,
    (yes_of_extendsTo (.nested settled) settled_wellShaped hpositive).1 _ _
      ann_extendsTo_annNamed hann⟩

end RecordSieve
