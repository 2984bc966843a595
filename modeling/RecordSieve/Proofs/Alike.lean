import RecordSieve.Delivery
import RecordSieve.Proofs.Evaluation
import RecordSieve.Proofs.Queries

/-!
# Records that criteria cannot tell apart

Two records are *alike* for some criteria if the criteria are evaluated alike on them: the verdict
is the same, and the dispatches correspond one by one. A query sees its records through evaluations
only, so where the records of two collections are alike position by position, every query ends in
the same way on both, at the same positions. It logs the same as well, but for dispatches, which
correspond one by one (`Collection.queriedAlike`).
-/

namespace RecordSieve

variable {D : Dispatch → Dispatch → Prop}

/-! ### Logs that are alike -/

/-- The entries are the same, or they are dispatches that correspond. -/
inductive LogEntry.Alike (D : Dispatch → Dispatch → Prop) : LogEntry → LogEntry → Prop
  | dispatched {d e : Dispatch} : D d e → Alike D (.dispatched d) (.dispatched e)
  | other {entry : LogEntry} : entry.level ≠ .trace → Alike D entry entry

/-- The results are the same, and so are the logs, but for dispatches, which correspond one by
one. -/
structure Logged.Alike {α : Type} (D : Dispatch → Dispatch → Prop) (x y : Logged α) : Prop where
  /-- The result is the same. -/
  result_eq : x.result = y.result
  /-- The entries are alike. -/
  log : List.Forall₂ (LogEntry.Alike D) x.log y.log

theorem Evaluation.Alike.log {e f : Evaluation} (h : e.Alike D f) :
    List.Forall₂ (LogEntry.Alike D) e.log f.log := by
  rw [Evaluation.log, Evaluation.log, List.forall₂_map_left_iff, List.forall₂_map_right_iff]
  exact h.dispatches.imp fun _ _ => .dispatched

namespace Logged

variable {α β : Type} {x y : Logged α} {log others : List LogEntry}

theorem Alike.map (h : x.Alike D y) (f : α → β) : (x.map f).Alike D (y.map f) :=
  ⟨congrArg f h.result_eq, h.log⟩

theorem Alike.after (h : x.Alike D y) (hlog : List.Forall₂ (LogEntry.Alike D) log others) :
    (x.after log).Alike D (y.after others) :=
  ⟨h.result_eq, List.rel_append hlog h.log⟩

/-- The same entry is added at the end. -/
theorem Alike.before (h : x.Alike D y) {entry : LogEntry} (hentry : entry.level ≠ .trace) :
    (x.before [entry]).Alike D (y.before [entry]) :=
  ⟨h.result_eq, List.rel_append h.log (.cons (.other hentry) .nil)⟩

end Logged

/-! ### Queries -/

/-- The criteria are evaluated alike on two records. -/
def Criteria.Alike (D : Dispatch → Dispatch → Prop) (q : Criteria) (r s : Value) : Prop :=
  (q.evaluate (some r)).Alike D (q.evaluate (some s))

/-- The positions of the hits, or what stopped the sieving. -/
def Outcome.positions (outcome : Outcome) : Except ScanError (List Nat) :=
  outcome.map (·.map Hit.index)

namespace Collection

/-- All queries with the criteria end in the same way on two collections, up to the records that
stand at the positions of the hits, and log the same, but for dispatches, which correspond one by
one. -/
structure QueriedAlike (D : Dispatch → Dispatch → Prop) (q : Criteria) (c d : Collection) :
    Prop where
  /-- The same positions are hit, or the same error stops the sieving. -/
  sieve : ((c.sieve q).map Outcome.positions).Alike D ((d.sieve q).map Outcome.positions)
  /-- The same positions are found. -/
  find : ((c.find q).map (·.map (·.map Hit.index))).Alike D
    ((d.find q).map (·.map (·.map Hit.index)))
  /-- The same outcome is kept for later. -/
  defer : ∀ receiver, ((c.defer q receiver).map (·.outcome.map Outcome.positions)).Alike D
    ((d.defer q receiver).map (·.outcome.map Outcome.positions))
  /-- There are as many hits. -/
  count : (c.count q).Alike D (d.count q)
  /-- The first hit has the same position, -/
  position : (c.position q).Alike D (d.position q)
  /-- at which the first record that is given back stands, -/
  first : ((c.first q).map (·.map (·.map Hit.index))).Alike D
    ((d.first q).map (·.map (·.map Hit.index)))
  /-- and there is one or there is none. -/
  any : (c.any q).Alike D (d.any q)

variable {q : Criteria} {rs ss : List Value} {c d : Collection}

theorem positionFrom_alike (h : List.Forall₂ (q.Alike D) rs ss) (k : Nat) :
    (positionFrom q k rs).Alike D (positionFrom q k ss) := by
  induction h generalizing k with
  | nil => exact ⟨rfl, .nil⟩
  | @cons r s rs ss halike _ ih =>
    have hverdict : (q.evaluate (some r)).verdict = (q.evaluate (some s)).verdict :=
      halike.verdict_eq
    have hlog := Evaluation.Alike.log halike
    simp only [positionFrom, hverdict]
    cases (q.evaluate (some s)).verdict with
    | no => exact (ih (k + 1)).after hlog
    | yes | error _ => exact ⟨rfl, hlog⟩

theorem hitsFrom_alike (h : List.Forall₂ (q.Alike D) rs ss) (k : Nat) :
    ((hitsFrom q k rs).map Outcome.positions).Alike D
      ((hitsFrom q k ss).map Outcome.positions) := by
  induction h generalizing k with
  | nil => exact ⟨rfl, .nil⟩
  | @cons r s rs ss halike _ ih =>
    -- A hit is put in front of those behind it, at the same position on both sides.
    have hput (x : Logged Outcome) (r : Value) :
        (x.map (·.map (⟨k, r⟩ :: ·))).map Outcome.positions =
          (x.map Outcome.positions).map (·.map (k :: ·)) := by
      obtain ⟨_ | _, log⟩ := x <;> rfl
    have hafter (x : Logged Outcome) (log : List LogEntry) :
        (x.after log).map Outcome.positions = (x.map Outcome.positions).after log := rfl
    have hverdict : (q.evaluate (some r)).verdict = (q.evaluate (some s)).verdict :=
      halike.verdict_eq
    have hlog := Evaluation.Alike.log halike
    simp only [hitsFrom, hverdict]
    cases (q.evaluate (some s)).verdict with
    | yes =>
      rw [hafter, hafter, hput, hput]
      exact ((ih (k + 1)).map _).after hlog
    | no =>
      rw [hafter, hafter]
      exact (ih (k + 1)).after hlog
    | error cause => exact ⟨rfl, hlog⟩

/-- Outcomes with the same positions are both hits at the same positions or the same error. -/
theorem outcome_cases {x y : Outcome} (h : x.positions = y.positions) :
    (∃ hits others, x = .ok hits ∧ y = .ok others ∧
      hits.map Hit.index = others.map Hit.index) ∨
    ∃ e, x = .error e ∧ y = .error e := by
  cases x with
  | error e =>
    cases y with
    | error f =>
      obtain rfl : e = f := Except.error.inj h
      exact .inr ⟨e, rfl, rfl⟩
    | ok others => cases h
  | ok hits =>
    cases y with
    | error f => cases h
    | ok others => exact .inl ⟨hits, others, rfl, rfl, Except.ok.inj h⟩

theorem sieve_alike (h : List.Forall₂ (q.Alike D) c.records d.records) :
    ((c.sieve q).map Outcome.positions).Alike D ((d.sieve q).map Outcome.positions) := by
  have hsize : c.size = d.size := h.length_eq
  have hscan := hitsFrom_alike h 0
  rcases outcome_cases hscan.result_eq with ⟨hits, others, hc, hd, hindex⟩ | ⟨e, hc, hd⟩
  · have hlength : hits.length = others.length := by
      simpa using congrArg List.length hindex
    have hsummary : (LogEntry.scanned d.size others.length).level ≠ .trace := by
      simp [LogEntry.level]
    simp only [sieve, hc, hd, hsize, hlength]
    exact hscan.before hsummary
  · simp only [sieve, hc, hd]
    exact hscan

/-- **Queries see records through evaluations only.** -/
theorem queriedAlike (h : List.Forall₂ (q.Alike D) c.records d.records) : QueriedAlike D q c d := by
  have hsieve := sieve_alike h
  have hposition : (c.position q).Alike D (d.position q) := positionFrom_alike h 0
  -- There are records at the same positions on both sides.
  have hhit (i : Nat) : (c.hitAt i).map Hit.index = (d.hitAt i).map Hit.index := by
    have hlength := h.length_eq
    rw [hitAt, hitAt]
    by_cases hi : i < c.records.length
    · rw [List.getElem?_eq_getElem hi, List.getElem?_eq_getElem (hlength ▸ hi)]
      rfl
    · rw [List.getElem?_eq_none (by omega), List.getElem?_eq_none (by omega)]
  refine ⟨hsieve, ?find, fun receiver => ?defer, ?count, hposition, ?first, hposition.map _⟩
  case defer =>
    have hdeferring : LogEntry.deferring.level ≠ .trace := by simp [LogEntry.level]
    exact ⟨congrArg some hsieve.result_eq, (hsieve.before hdeferring).log⟩
  case first =>
    refine ⟨?_, hposition.log⟩
    simp only [first, Logged.map, hposition.result_eq]
    rcases (d.position q).result with _ | _ | i
    · rfl
    · rfl
    · exact congrArg Except.ok (hhit i)
  all_goals rcases outcome_cases hsieve.result_eq with ⟨hits, others, hc, hd, hindex⟩ | ⟨e, hc, hd⟩
  case find.inl =>
    simp only [find, hc, hd]
    exact ⟨congrArg some hindex, hsieve.log⟩
  case find.inr =>
    have hcomplaint : (LogEntry.findFailed e).level ≠ .trace := by simp [LogEntry.level]
    simp only [find, hc, hd]
    exact ⟨rfl, (hsieve.before hcomplaint).log⟩
  case count.inl =>
    have hlength : hits.length = others.length := by
      simpa using congrArg List.length hindex
    refine ⟨?_, hsieve.log⟩
    simp only [count, Logged.map, hc, hd, Except.map, hlength]
  case count.inr =>
    refine ⟨?_, hsieve.log⟩
    simp only [count, Logged.map, hc, hd, Except.map]

end Collection

end RecordSieve
