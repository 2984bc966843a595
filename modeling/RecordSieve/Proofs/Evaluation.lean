import Mathlib.Data.List.Forall2
import RecordSieve.Evaluation

/-!
# Evaluations in turn

The evaluator asks one thing after the other: entries of criteria, positions of a list, candidates
of an operator, members of an array. Each time it goes on as long as the answer stays the same,
and the first other answer is final. `Evaluation.all` asks a list of evaluations up to the first
that is not a yes, and `Evaluation.any` up to the first that is not a no.

Two things are said of what an evaluation ends with. It *decides* a proposition if it ends with a
yes where the proposition is true and with a no where it is false, and it *fails with* a set of
errors at most if every error that it can end with is among them. Both are handed on by every way
of joining evaluations, so that what the evaluator does as a whole can be read off its parts.

Two evaluations are *alike* (`Evaluation.Alike`) if they end in the same verdict and their
dispatches correspond one by one. What corresponds is left open: it may be the same operator on
related items. Evaluations that are joined from alike ones are alike, since what is asked next
depends on verdicts only.
-/

namespace RecordSieve

namespace Evaluation

/-- Asks evaluations in turn, up to the first that does not say yes. -/
def all (es : List Evaluation) : Evaluation := es.foldr andThen (.of .yes)

/-- Asks evaluations in turn, up to the first that does not say no. -/
def any (es : List Evaluation) : Evaluation := es.foldr orElse (.of .no)

@[simp] theorem all_cons (e : Evaluation) (es : List Evaluation) :
    all (e :: es) = e.andThen (all es) := rfl

@[simp] theorem any_cons (e : Evaluation) (es : List Evaluation) :
    any (e :: es) = e.orElse (any es) := rfl

/-- Nothing is asked after a single evaluation. -/
theorem all_singleton (e : Evaluation) : all [e] = e := by
  obtain ⟨v, ds⟩ := e
  cases v <;> simp [all, of, after]

/-- Nothing is asked after a single evaluation. -/
theorem any_singleton (e : Evaluation) : any [e] = e := by
  obtain ⟨v, ds⟩ := e
  cases v <;> simp [any, of, after]

theorem andThen_assoc (e f g : Evaluation) : (e.andThen f).andThen g = e.andThen (f.andThen g) := by
  obtain ⟨v, ds⟩ := e
  obtain ⟨w, fs⟩ := f
  cases v <;> cases w <;> simp [after]

theorem orElse_assoc (e f g : Evaluation) : (e.orElse f).orElse g = e.orElse (f.orElse g) := by
  obtain ⟨v, ds⟩ := e
  obtain ⟨w, fs⟩ := f
  cases v <;> cases w <;> simp [after]

/-- The second half is asked if all of the first half says yes. -/
theorem all_append (es fs : List Evaluation) : all (es ++ fs) = (all es).andThen (all fs) := by
  induction es with
  | nil => rfl
  | cons e es ih => rw [List.cons_append, all_cons, ih, all_cons, andThen_assoc]

/-- The second half is asked if all of the first half says no. -/
theorem any_append (es fs : List Evaluation) : any (es ++ fs) = (any es).orElse (any fs) := by
  induction es with
  | nil => rfl
  | cons e es ih => rw [List.cons_append, any_cons, ih, any_cons, orElse_assoc]

/-! ### The verdict -/

@[simp] theorem verdict_after (ds : List Dispatch) (e : Evaluation) :
    (e.after ds).verdict = e.verdict := rfl

@[simp] theorem verdict_negated (e : Evaluation) : e.negated.verdict = e.verdict.negated := rfl

@[simp] theorem verdict_lenient (e : Evaluation) : e.lenient.verdict = e.verdict.lenient := rfl

/-- After a yes the next verdict counts; any other verdict stays. -/
theorem verdict_andThen (first next : Evaluation) :
    (first.andThen next).verdict = if first.verdict = .yes then next.verdict else first.verdict := by
  obtain ⟨v, ds⟩ := first
  cases v <;> simp

/-- After a no the next verdict counts; any other verdict stays. -/
theorem verdict_orElse (first next : Evaluation) :
    (first.orElse next).verdict = if first.verdict = .no then next.verdict else first.verdict := by
  obtain ⟨v, ds⟩ := first
  cases v <;> simp

/-- A yes stays; after any other verdict the next one counts. -/
theorem verdict_unlessYes (first : Evaluation) (next : Verdict → Evaluation) :
    (first.unlessYes next).verdict =
      if first.verdict = .yes then .yes else (next first.verdict).verdict := by
  obtain ⟨v, ds⟩ := first
  cases v <;> simp [unlessYes]

/-- If one of several evaluations is a yes, and those asked before it end without an error, a yes is
reached. -/
theorem verdict_any_of_yes {before after : List Evaluation} {e : Evaluation}
    (hbefore : ∀ f ∈ before, ∀ cause, f.verdict ≠ .error cause) (he : e.verdict = .yes) :
    (any (before ++ e :: after)).verdict = .yes := by
  induction before with
  | nil => rw [List.nil_append, any_cons, verdict_orElse, he, if_neg nofun]
  | cons f before ih =>
    have hrest := ih fun g hg => hbefore g (List.mem_cons_of_mem f hg)
    rw [List.cons_append, any_cons, verdict_orElse, hrest]
    cases hf : f.verdict with
    | yes | no => rfl
    | error cause => exact absurd hf (hbefore f List.mem_cons_self cause)

/-- A yes is reached at an evaluation that says yes. -/
theorem exists_yes_of_verdict_any {es : List Evaluation} (h : (any es).verdict = .yes) :
    ∃ e ∈ es, e.verdict = .yes := by
  induction es with
  | nil => cases h
  | cons e es ih =>
    rw [any_cons, verdict_orElse] at h
    split at h
    · obtain ⟨f, hf, hyes⟩ := ih h
      exact ⟨f, List.mem_cons_of_mem e hf, hyes⟩
    · exact ⟨e, List.mem_cons_self, h⟩

/-! ### Deciding a proposition -/

/-- The evaluation ends with a yes if `P` is true and with a no if `P` is false. -/
def Decides (e : Evaluation) (P : Prop) : Prop :=
  (P → e.verdict = .yes) ∧ (¬P → e.verdict = .no)

/-- Whether an evaluation decides a proposition is a matter of its verdict. -/
theorem Decides.congr {e f : Evaluation} {P Q : Prop} (h : e.Decides P)
    (hv : f.verdict = e.verdict) (hp : Q ↔ P) : f.Decides Q :=
  ⟨fun hq => hv.trans (h.1 (hp.mp hq)), fun hq => hv.trans (h.2 fun p => hq (hp.mpr p))⟩

theorem Decides.yes_iff {e : Evaluation} {P : Prop} (h : e.Decides P) : e.verdict = .yes ↔ P := by
  refine ⟨fun hyes => ?_, h.1⟩
  by_cases hp : P
  · exact hp
  · rw [h.2 hp] at hyes
    cases hyes

theorem Decides.yes_or_no {e : Evaluation} {P : Prop} (h : e.Decides P) :
    e.verdict = .yes ∨ e.verdict = .no :=
  (Classical.em P).imp h.1 h.2

/-- What decides the same ends in the same way. -/
theorem Decides.verdict_eq {e f : Evaluation} {P Q : Prop} (he : e.Decides P) (hf : f.Decides Q)
    (h : P ↔ Q) : e.verdict = f.verdict := by
  by_cases hp : P
  · rw [he.1 hp, hf.1 (h.mp hp)]
  · rw [he.2 hp, hf.2 fun hq => hp (h.mpr hq)]

theorem decides_ofBool {b : Bool} {P : Prop} (h : b = true ↔ P) : (of (.ofBool b)).Decides P := by
  cases b with
  | true => exact ⟨fun _ => rfl, fun hp => absurd (h.mp rfl) hp⟩
  | false => exact ⟨fun hp => absurd (h.mpr hp) Bool.false_ne_true, fun _ => rfl⟩

theorem Decides.andThen {e f : Evaluation} {P Q : Prop} (he : e.Decides P) (hf : f.Decides Q) :
    (e.andThen f).Decides (P ∧ Q) := by
  unfold Decides
  rw [verdict_andThen]
  by_cases p : P
  · rw [he.1 p, if_pos rfl]
    exact ⟨fun h => hf.1 h.2, fun h => hf.2 fun q => h ⟨p, q⟩⟩
  · rw [he.2 p, if_neg nofun]
    exact ⟨fun h => absurd h.1 p, fun _ => rfl⟩

theorem Decides.orElse {e f : Evaluation} {P Q : Prop} (he : e.Decides P) (hf : f.Decides Q) :
    (e.orElse f).Decides (P ∨ Q) := by
  unfold Decides
  rw [verdict_orElse]
  by_cases p : P
  · rw [he.1 p, if_neg nofun]
    exact ⟨fun _ => rfl, fun h => absurd (.inl p) h⟩
  · rw [he.2 p, if_pos rfl]
    exact ⟨fun h => hf.1 (h.resolve_left p), fun h => hf.2 fun q => h (.inr q)⟩

theorem Decides.negated {e : Evaluation} {P : Prop} (he : e.Decides P) :
    e.negated.Decides (¬P) := by
  unfold Decides
  rw [verdict_negated]
  by_cases p : P
  · rw [he.1 p]
    exact ⟨fun h => absurd p h, fun _ => rfl⟩
  · rw [he.2 p]
    exact ⟨fun _ => rfl, fun h => absurd p h⟩

/-- Counting errors as a no changes nothing where there are none. -/
theorem Decides.lenient {e : Evaluation} {P : Prop} (he : e.Decides P) : e.lenient.Decides P := by
  unfold Decides
  rw [verdict_lenient]
  exact ⟨fun p => by rw [he.1 p]; rfl, fun p => by rw [he.2 p]; rfl⟩

/-- With errors counted as a no, an evaluation decides whether it says yes. -/
theorem decides_lenient (e : Evaluation) : e.lenient.Decides (e.verdict = .yes) := by
  unfold Decides
  rw [verdict_lenient]
  cases e.verdict <;> simp [Verdict.lenient]

/-- Asked up to the first that is not a yes, deciding evaluations decide whether all is true. -/
theorem decides_all {α : Type} {f : α → Evaluation} {P : α → Prop} {xs : List α}
    (h : ∀ x ∈ xs, (f x).Decides (P x)) : (all (xs.map f)).Decides (∀ x ∈ xs, P x) := by
  induction xs with
  | nil => exact ⟨fun _ => rfl, fun hn => absurd (by simp) hn⟩
  | cons x xs ih =>
    have hrest := ih fun y hy => h y (List.mem_cons_of_mem x hy)
    exact ((h x List.mem_cons_self).andThen hrest).congr rfl (by simp)

/-- Asked up to the first that is not a no, deciding evaluations decide whether some is true. -/
theorem decides_any {α : Type} {f : α → Evaluation} {P : α → Prop} {xs : List α}
    (h : ∀ x ∈ xs, (f x).Decides (P x)) : (any (xs.map f)).Decides (∃ x ∈ xs, P x) := by
  induction xs with
  | nil => exact ⟨by simp, fun _ => rfl⟩
  | cons x xs ih =>
    have hrest := ih fun y hy => h y (List.mem_cons_of_mem x hy)
    exact ((h x List.mem_cons_self).orElse hrest).congr rfl (by simp)

/-! ### Failing with one of some errors -/

/-- If the evaluation ends with an error, then with one among `R`. -/
def FailsWith (e : Evaluation) (R : MatchError → Prop) : Prop :=
  ∀ err, e.verdict = .error err → R err

variable {e f : Evaluation} {R S : MatchError → Prop}

theorem FailsWith.mono (h : e.FailsWith R) (hRS : ∀ err, R err → S err) : e.FailsWith S :=
  fun err herr => hRS err (h err herr)

theorem failsWith_ofBool (b : Bool) : (of (.ofBool b)).FailsWith R := by
  intro err herr
  cases b <;> cases herr

theorem FailsWith.andThen (he : e.FailsWith R) (hf : f.FailsWith R) : (e.andThen f).FailsWith R := by
  intro err herr
  rw [verdict_andThen] at herr
  split at herr
  · exact hf err herr
  · exact he err herr

theorem FailsWith.orElse (he : e.FailsWith R) (hf : f.FailsWith R) : (e.orElse f).FailsWith R := by
  intro err herr
  rw [verdict_orElse] at herr
  split at herr
  · exact hf err herr
  · exact he err herr

theorem FailsWith.negated (he : e.FailsWith R) : e.negated.FailsWith R := by
  intro err herr
  rw [verdict_negated] at herr
  cases hv : e.verdict with
  | yes | no => rw [hv] at herr; cases herr
  | error cause =>
    rw [hv] at herr
    cases herr
    exact he err hv

/-- Errors that count as a no are gone. -/
theorem failsWith_lenient (e : Evaluation) : e.lenient.FailsWith R := by
  intro err herr
  rw [verdict_lenient] at herr
  cases hv : e.verdict <;> rw [hv] at herr <;> cases herr

theorem failsWith_all {α : Type} {f : α → Evaluation} {xs : List α}
    (h : ∀ x ∈ xs, (f x).FailsWith R) : (all (xs.map f)).FailsWith R := by
  induction xs with
  | nil => exact nofun
  | cons x xs ih =>
    exact (h x List.mem_cons_self).andThen (ih fun y hy => h y (List.mem_cons_of_mem x hy))

theorem failsWith_any {α : Type} {f : α → Evaluation} {xs : List α}
    (h : ∀ x ∈ xs, (f x).FailsWith R) : (any (xs.map f)).FailsWith R := by
  induction xs with
  | nil => exact nofun
  | cons x xs ih =>
    exact (h x List.mem_cons_self).orElse (ih fun y hy => h y (List.mem_cons_of_mem x hy))

end Evaluation

/-! ### Evaluations that are alike -/

/-- The same operator is applied to items that `R` relates. -/
structure Dispatch.OnRelated (R : Option Value → Option Value → Prop) (d e : Dispatch) : Prop where
  /-- The operator is the same. -/
  op_eq : d.op = e.op
  /-- The items are related. -/
  items : R d.item e.item

theorem Dispatch.OnRelated.eq {d e : Dispatch} (h : d.OnRelated Eq e) : d = e := by
  cases d
  cases e
  exact congr (congrArg Dispatch.mk h.op_eq) h.items

/-- The evaluations end in the same verdict, and their dispatches correspond one by one. -/
structure Evaluation.Alike (D : Dispatch → Dispatch → Prop) (e f : Evaluation) : Prop where
  /-- The verdict is the same. -/
  verdict_eq : e.verdict = f.verdict
  /-- What is dispatched corresponds. -/
  dispatches : List.Forall₂ D e.dispatches f.dispatches

/-- The evaluations are alike, with dispatches of the same operators on items that `R` relates. -/
abbrev Evaluation.AlikeOn (R : Option Value → Option Value → Prop) (e f : Evaluation) : Prop :=
  e.Alike (Dispatch.OnRelated R) f

namespace Evaluation

variable {D : Dispatch → Dispatch → Prop} {e e' f f' : Evaluation}

theorem alike_refl (hD : ∀ d, D d d) (e : Evaluation) : e.Alike D e :=
  ⟨rfl, List.forall₂_same.mpr fun d _ => hD d⟩

theorem alike_of {v w : Verdict} (h : v = w) : (of v).Alike D (of w) := ⟨h, .nil⟩

theorem Alike.eq (h : e.Alike Eq f) : e = f := by
  cases e
  cases f
  exact congr (congrArg Evaluation.mk h.verdict_eq) (List.forall₂_eq_eq_eq ▸ h.dispatches)

theorem Alike.mono {E : Dispatch → Dispatch → Prop} (h : e.Alike D f)
    (hDE : ∀ d d', D d d' → E d d') : e.Alike E f :=
  ⟨h.verdict_eq, h.dispatches.imp hDE⟩

theorem Alike.after (h : e.Alike D f) {ds es : List Dispatch} (hds : List.Forall₂ D ds es) :
    (e.after ds).Alike D (f.after es) :=
  ⟨h.verdict_eq, List.rel_append hds h.dispatches⟩

theorem Alike.negated (h : e.Alike D f) : e.negated.Alike D f.negated :=
  ⟨congrArg Verdict.negated h.verdict_eq, h.dispatches⟩

theorem Alike.lenient (h : e.Alike D f) : e.lenient.Alike D f.lenient :=
  ⟨congrArg Verdict.lenient h.verdict_eq, h.dispatches⟩

theorem Alike.andThen (he : e.Alike D e') (hf : f.Alike D f') :
    (e.andThen f).Alike D (e'.andThen f') := by
  obtain ⟨v, ds⟩ := e
  obtain ⟨w, es⟩ := e'
  obtain rfl : v = w := he.verdict_eq
  cases v with
  | yes => exact hf.after he.dispatches
  | no | error _ => exact he

theorem Alike.orElse (he : e.Alike D e') (hf : f.Alike D f') :
    (e.orElse f).Alike D (e'.orElse f') := by
  obtain ⟨v, ds⟩ := e
  obtain ⟨w, es⟩ := e'
  obtain rfl : v = w := he.verdict_eq
  cases v with
  | no => exact hf.after he.dispatches
  | yes | error _ => exact he

theorem Alike.unlessYes {next next' : Verdict → Evaluation} (he : e.Alike D e')
    (hnext : ∀ v, (next v).Alike D (next' v)) : (e.unlessYes next).Alike D (e'.unlessYes next') := by
  obtain ⟨v, ds⟩ := e
  obtain ⟨w, es⟩ := e'
  obtain rfl : v = w := he.verdict_eq
  cases v with
  | yes => exact he
  | no | error _ => exact (hnext _).after he.dispatches

/-- An operator that is applied to two items is dispatched on both of them. -/
theorem Alike.ofOperator (h : e.Alike D f) {op : Operator} {x y : Option Value}
    (hD : ∀ o ∈ op.chain, D ⟨o, x⟩ ⟨o, y⟩) : (ofOperator op x e).Alike D (ofOperator op y f) := by
  refine h.after ?_
  rw [List.forall₂_map_left_iff, List.forall₂_map_right_iff]
  exact List.forall₂_same.mpr hD

variable {α β : Type} {g : α → Evaluation} {g' : β → Evaluation} {xs : List α} {ys : List β}

theorem alike_all (h : List.Forall₂ (fun x y => (g x).Alike D (g' y)) xs ys) :
    (all (xs.map g)).Alike D (all (ys.map g')) := by
  induction h with
  | nil => exact alike_of rfl
  | cons hx _ ih => exact hx.andThen ih

theorem alike_any (h : List.Forall₂ (fun x y => (g x).Alike D (g' y)) xs ys) :
    (any (xs.map g)).Alike D (any (ys.map g')) := by
  induction h with
  | nil => exact alike_of rfl
  | cons hx _ ih => exact hx.orElse ih

end Evaluation

end RecordSieve
