import RecordSieve.Delivery
import RecordSieve.Proofs.Dispatches
import RecordSieve.Proofs.Queries

/-!
# What the queries log

A query logs the dispatches on the records that it evaluates, record by record, and it evaluates
the records up to the one at which its loop stops. All that may come behind is one entry for each
thing that happened to the query as a whole: that all records were evaluated, that the search was
given up, that the outcome is kept for later.

**`logs_tell_the_truth`** gives the log of each query from its result and the evaluations of the
records, so that the result can be read off the log, and shows that the negated membership is
always logged together with the plain one.
-/

namespace RecordSieve

/-! ### The records that are evaluated -/

/-- The elements that a loop meets: those where it goes on, up to the first where it does not. -/
def upTo {α : Type} (goesOn : α → Prop) [DecidablePred goesOn] : List α → List α
  | [] => []
  | x :: xs => if goesOn x then x :: upTo goesOn xs else [x]

section UpTo

variable {α : Type} {goesOn : α → Prop} [DecidablePred goesOn] {xs : List α}

theorem upTo_of_forall (h : ∀ x ∈ xs, goesOn x) : upTo goesOn xs = xs := by
  induction xs with
  | nil => rfl
  | cons x xs ih =>
    obtain ⟨hx, hxs⟩ := List.forall_mem_cons.mp h
    rw [upTo, if_pos hx, ih hxs]

/-- A loop meets what stands at the position where it stops, and all before. -/
theorem upTo_of_reaches {i : Nat} {x : α} (h : Reaches goesOn xs i x) (hx : ¬goesOn x) :
    upTo goesOn xs = xs.take (i + 1) := by
  obtain ⟨before, after, rfl, rfl, hbefore⟩ := h.split
  clear h
  induction before with
  | nil => simp [upTo, hx]
  | cons y before ih =>
    obtain ⟨hy, hrest⟩ := List.forall_mem_cons.mp hbefore
    rw [List.cons_append, upTo, if_pos hy, ih hrest, List.length_cons, List.take_succ_cons]

/-- What goes on longer meets more. -/
theorem upTo_prefix_upTo {further : α → Prop} [DecidablePred further]
    (h : ∀ x, goesOn x → further x) (xs : List α) : upTo goesOn xs <+: upTo further xs := by
  induction xs with
  | nil => exact List.prefix_rfl
  | cons x xs ih =>
    by_cases hx : goesOn x
    · rw [upTo, upTo, if_pos hx, if_pos (h x hx)]
      exact (List.prefix_cons_inj x).mpr ih
    · rw [upTo, upTo, if_neg hx]
      split
      · exact ⟨upTo further xs, rfl⟩
      · exact List.prefix_rfl

end UpTo

namespace Criteria

instance (q : Criteria) : DecidablePred q.Misses :=
  fun r => inferInstanceAs (Decidable (q.verdictOn r = .no))

instance (q : Criteria) : DecidablePred q.Decided := fun r =>
  match h : q.verdictOn r with
  | .yes => isTrue fun cause => by rw [h]; exact nofun
  | .no => isTrue fun cause => by rw [h]; exact nofun
  | .error cause => isFalse fun hr => hr cause h

/-- The dispatches on records, one record after the other, as entries of a log. -/
def traces (q : Criteria) (rs : List Value) : List LogEntry :=
  (rs.flatMap fun r => (q.evaluate (some r)).dispatches).map .dispatched

@[simp] theorem traces_nil (q : Criteria) : q.traces [] = [] := rfl

/-- A record's own dispatches come first. -/
@[simp] theorem traces_cons (q : Criteria) (r : Value) (rs : List Value) :
    q.traces (r :: rs) = (q.evaluate (some r)).log ++ q.traces rs := by
  rw [traces, List.flatMap_cons, List.map_append, Evaluation.log, traces]

theorem traces_append (q : Criteria) (first second : List Value) :
    q.traces (first ++ second) = q.traces first ++ q.traces second := by
  rw [traces, List.flatMap_append, List.map_append, traces, traces]

/-- The entries for records are dispatches, which come in chains. -/
theorem traces_eq_map (q : Criteria) (rs : List Value) :
    ∃ ds, q.traces rs = ds.map .dispatched ∧ Chained ds :=
  ⟨_, rfl, chained_flatMap fun r _ => q.inChains_evaluate (some r)⟩

theorem exists_dispatch_of_mem_traces {q : Criteria} {rs : List Value} {entry : LogEntry}
    (h : entry ∈ q.traces rs) : ∃ d, entry = .dispatched d := by
  obtain ⟨d, -, rfl⟩ := List.mem_map.mp h
  exact ⟨d, rfl⟩

theorem level_of_mem_traces {q : Criteria} {rs : List Value} {entry : LogEntry}
    (h : entry ∈ q.traces rs) : entry.level = .trace := by
  obtain ⟨d, rfl⟩ := exists_dispatch_of_mem_traces h
  rfl

end Criteria

/-! ### The shape of a log -/

/-- Each dispatch of the negated membership is followed at once by one of the plain membership, on
the same item. -/
def PairsNegations (log : List LogEntry) : Prop :=
  ∀ (i : Nat) (item : Option Value), log[i]? = some (.dispatched ⟨.noneOf, item⟩) →
    log[i + 1]? = some (.dispatched ⟨.oneOf, item⟩)

/-- At the finest level nothing is left out. -/
theorem logUpTo_trace (log : List LogEntry) : logUpTo .trace log = log := by
  refine List.filter_eq_self.mpr fun entry _ => ?_
  cases entry <;> rfl

/-- The dispatches on some records, and then entries of other kinds. -/
def Criteria.TracesFirst (q : Criteria) (log : List LogEntry) : Prop :=
  ∃ rs rest, log = q.traces rs ++ rest ∧ ∀ entry ∈ rest, entry.level ≠ .trace

namespace Criteria

variable {q : Criteria} {log : List LogEntry}

theorem tracesFirst_traces (q : Criteria) (rs : List Value) : q.TracesFirst (q.traces rs) :=
  ⟨rs, [], (List.append_nil _).symm, by simp⟩

theorem TracesFirst.append (h : q.TracesFirst log) {more : List LogEntry}
    (hmore : ∀ entry ∈ more, entry.level ≠ .trace) : q.TracesFirst (log ++ more) := by
  obtain ⟨rs, rest, rfl, hrest⟩ := h
  exact ⟨rs, rest ++ more, List.append_assoc .., List.forall_mem_append.mpr ⟨hrest, hmore⟩⟩

/-- What comes behind the dispatches separates none of them. -/
theorem TracesFirst.pairsNegations (h : q.TracesFirst log) : PairsNegations log := by
  obtain ⟨rs, rest, rfl, hrest⟩ := h
  obtain ⟨ds, hds, hchained⟩ := q.traces_eq_map rs
  rw [hds]
  intro i item hi
  rcases Nat.lt_or_ge i (ds.map LogEntry.dispatched).length with hlt | hge
  · rw [List.getElem?_append_left hlt, List.getElem?_map] at hi
    obtain ⟨d, hd, heq⟩ := Option.map_eq_some_iff.mp hi
    cases heq
    have hnext : (ds.map LogEntry.dispatched)[i + 1]? = some (.dispatched ⟨.oneOf, item⟩) := by
      rw [List.getElem?_map, hchained.oneOf_after_noneOf hd, Option.map_some]
    rw [List.getElem?_append_left (List.getElem?_eq_some_iff.mp hnext).1, hnext]
  · rw [List.getElem?_append_right hge] at hi
    exact absurd rfl (hrest _ (List.mem_of_getElem? hi))

end Criteria

/-! ### The logs of the loops -/

namespace Collection

variable {c : Collection} {q : Criteria} {k : Nat} {rs : List Value} {hits : List Hit}
  {e : ScanError}

theorem log_hitsFrom : (hitsFrom q k rs).log = q.traces (upTo q.Decided rs) := by
  induction rs generalizing k with
  | nil => rfl
  | cons r rs ih =>
    rw [hitsFrom, upTo]
    cases hv : (q.evaluate (some r)).verdict with
    | error cause =>
      have hr : ¬q.Decided r := fun h => h cause hv
      simp [hr]
    | yes | no =>
      have hr : q.Decided r := by
        intro cause
        rw [Criteria.verdictOn, hv]
        exact nofun
      simp [hr, ih]

theorem log_positionFrom : (positionFrom q k rs).log = q.traces (upTo q.Misses rs) := by
  induction rs generalizing k with
  | nil => rfl
  | cons r rs ih =>
    rw [positionFrom, upTo]
    cases hv : (q.evaluate (some r)).verdict with
    | no =>
      have hr : q.Misses r := hv
      simp [hr, ih]
    | yes | error _ =>
      have hr : ¬q.Misses r := by
        intro hmiss
        rw [Criteria.Misses, Criteria.verdictOn, hv] at hmiss
        cases hmiss
      simp [hr]

/-! ### The logs of the queries -/

/-- What sieving logs when it has come to its end. -/
def summary (c : Collection) : Outcome → List LogEntry
  | .ok hits => [.scanned c.size hits.length]
  | .error _ => []

/-- What a search logs when it is given up. -/
def complaint : Outcome → List LogEntry
  | .ok _ => []
  | .error e => [.findFailed e]

theorem log_sieve :
    (c.sieve q).log = q.traces (upTo q.Decided c.records) ++ c.summary (c.sieve q).result := by
  rw [result_sieve, sieve]
  cases h : (hitsFrom q 0 c.records).result with
  | ok hits => simp [log_hitsFrom, summary]
  | error e => simp [log_hitsFrom, summary]

theorem log_find : (c.find q).log = (c.sieve q).log ++ complaint (c.sieve q).result := by
  rw [find]
  cases (c.sieve q).result <;> simp [complaint]

theorem log_defer (receiver : String) :
    (c.defer q receiver).log = (c.sieve q).log ++ [.deferring] := rfl

theorem log_position : (c.position q).log = q.traces (upTo q.Misses c.records) := log_positionFrom

theorem log_sieve_of_ok (h : (c.sieve q).result = .ok hits) :
    (c.sieve q).log = q.traces c.records ++ [.scanned c.size hits.length] := by
  rw [log_sieve, h, upTo_of_forall (result_sieve_eq_ok_iff.mp h).1]
  rfl

theorem log_sieve_of_error (h : (c.sieve q).result = .error e) :
    (c.sieve q).log = q.traces (c.records.take (e.index + 1)) := by
  obtain ⟨r, hreaches, hr⟩ := result_sieve_eq_error_iff.mp h
  rw [log_sieve, h, upTo_of_reaches hreaches fun hdecided => hdecided _ hr]
  exact List.append_nil _

theorem log_position_of_reaches {i : Nat} {r : Value} (h : Reaches q.Misses c.records i r)
    (hr : ¬q.Misses r) : (c.position q).log = q.traces (c.records.take (i + 1)) := by
  rw [log_position, upTo_of_reaches h hr]

theorem log_position_of_misses (h : ∀ r ∈ c.records, q.Misses r) :
    (c.position q).log = q.traces c.records := by
  rw [log_position, upTo_of_forall h]

theorem exists_scanned_of_mem_summary {outcome : Outcome} {entry : LogEntry}
    (h : entry ∈ c.summary outcome) : ∃ found, entry = .scanned c.size found := by
  cases outcome with
  | ok hits => exact ⟨hits.length, List.mem_singleton.mp h⟩
  | error e => cases h

theorem level_of_mem_summary {outcome : Outcome} {entry : LogEntry}
    (h : entry ∈ c.summary outcome) : entry.level = .debug := by
  obtain ⟨found, rfl⟩ := exists_scanned_of_mem_summary h
  rfl

/-- Sieving logs dispatches and, if it comes to the end, a summary. -/
theorem mem_log_sieve {entry : LogEntry} (h : entry ∈ (c.sieve q).log) :
    (∃ d, entry = .dispatched d) ∨ ∃ found, entry = .scanned c.size found := by
  rw [log_sieve, List.mem_append] at h
  exact h.imp Criteria.exists_dispatch_of_mem_traces exists_scanned_of_mem_summary

theorem level_of_mem_complaint {outcome : Outcome} {entry : LogEntry}
    (h : entry ∈ complaint outcome) : entry.level = .warn := by
  cases outcome with
  | ok hits => cases h
  | error e =>
    rw [List.mem_singleton.mp h]
    rfl

/-- The dispatches among what sieving logs. -/
theorem filter_log_sieve :
    (c.sieve q).log.filter (·.level = .trace) = q.traces (upTo q.Decided c.records) := by
  have htraces : (q.traces (upTo q.Decided c.records)).filter (·.level = .trace) = _ :=
    List.filter_eq_self.mpr fun entry h => by simp [Criteria.level_of_mem_traces h]
  have hsummary : (c.summary (c.sieve q).result).filter (·.level = .trace) = [] :=
    List.filter_eq_nil_iff.mpr fun entry h => by simp [level_of_mem_summary h]
  rw [log_sieve, List.filter_append, htraces, hsummary, List.append_nil]

/-- A search complains exactly when it finds nothing to give back. -/
theorem result_find_eq_none_iff :
    (c.find q).result = none ↔ ∃ entry ∈ (c.find q).log, entry.level = .warn := by
  have hquiet (entry : LogEntry) (h : entry ∈ (c.sieve q).log) : entry.level ≠ .warn := by
    obtain ⟨d, rfl⟩ | ⟨found, rfl⟩ := mem_log_sieve h <;> simp [LogEntry.level]
  rw [log_find, find]
  cases hr : (c.sieve q).result with
  | ok hits => simpa [complaint] using hquiet
  | error e => simp [complaint, LogEntry.level]

/-- A search that complains has not come to its end. -/
theorem not_mem_log_find_of_warn (h : ∃ entry ∈ (c.find q).log, entry.level = .warn)
    (records found : Nat) : .scanned records found ∉ (c.find q).log := by
  intro hmem
  rw [← result_find_eq_none_iff, find] at h
  cases hr : (c.sieve q).result with
  | ok hits => simp [hr] at h
  | error e =>
    rw [log_find, hr, log_sieve_of_error hr, List.mem_append] at hmem
    rcases hmem with hmem | hmem
    · cases Criteria.level_of_mem_traces hmem
    · cases level_of_mem_complaint hmem

theorem tracesFirst_sieve : q.TracesFirst (c.sieve q).log := by
  rw [log_sieve]
  refine (q.tracesFirst_traces _).append fun entry h => ?_
  rw [level_of_mem_summary h]
  exact nofun

theorem tracesFirst_find : q.TracesFirst (c.find q).log := by
  rw [log_find]
  refine tracesFirst_sieve.append fun entry h => ?_
  rw [level_of_mem_complaint h]
  exact nofun

theorem tracesFirst_defer (receiver : String) : q.TracesFirst (c.defer q receiver).log := by
  rw [log_defer]
  refine tracesFirst_sieve.append fun entry h => ?_
  rw [List.mem_singleton.mp h]
  exact nofun

theorem tracesFirst_position : q.TracesFirst (c.position q).log := by
  rw [log_position]
  exact q.tracesFirst_traces _

/-- **The logs tell what happened**: which records were evaluated, and how the query ended. -/
theorem logs_tell_the_truth (c : Collection) (q : Criteria) (receiver : String) :
    -- Sieving logs the dispatches on the records that it evaluates, and a summary at the end.
    (∀ hits, (c.sieve q).result = .ok hits →
      (c.sieve q).log = q.traces c.records ++ [.scanned c.records.length hits.length]) ∧
    (∀ e, (c.sieve q).result = .error e →
      (∃ r, Reaches q.Decided c.records e.index r ∧ q.verdictOn r = .error e.cause) ∧
      (c.sieve q).log = q.traces (c.records.take (e.index + 1))) ∧
    (c.count q).log = (c.sieve q).log ∧
    -- A search that is given up adds a warning, which no other search logs.
    (∀ hits, (c.sieve q).result = .ok hits → (c.find q).log = (c.sieve q).log) ∧
    (∀ e, (c.sieve q).result = .error e →
      (c.find q).log = (c.sieve q).log ++ [.findFailed e]) ∧
    ((c.find q).result = none ↔ ∃ entry ∈ (c.find q).log, entry.level = .warn) ∧
    ((∃ entry ∈ (c.find q).log, entry.level = .warn) →
      ∀ records found, .scanned records found ∉ (c.find q).log) ∧
    (c.defer q receiver).log = (c.sieve q).log ++ [.deferring] ∧
    -- The queries for the first hit log dispatches alone, up to the first record that is a hit or
    -- cannot be decided.
    (∀ i r, Reaches q.Misses c.records i r → ¬q.Misses r →
      (c.position q).log = q.traces (c.records.take (i + 1))) ∧
    ((∀ r ∈ c.records, q.Misses r) → (c.position q).log = q.traces c.records) ∧
    (c.any q).log = (c.position q).log ∧
    (c.first q).log = (c.position q).log ∧
    (c.position q).log <+: (c.sieve q).log.filter (·.level = .trace) ∧
    -- The entries for records are dispatches, of which an operator notes its own first; the negated
    -- membership goes on as the plain one, so that those of the memberships come in pairs.
    (∀ rs, ∀ entry ∈ q.traces rs, ∃ d, entry = .dispatched d) ∧
    (∀ (op : Operator) (operand : Criterion) (item : Option Value),
      ∃ rest, (op.apply operand item).dispatches = ⟨op, item⟩ :: rest) ∧
    (∀ (operand : Criterion) (item : Option Value), Operator.noneOf.apply operand item =
      (Operator.oneOf.apply operand item).negated.after [⟨.noneOf, item⟩]) ∧
    (∀ log ∈ [(c.sieve q).log, (c.count q).log, (c.find q).log, (c.defer q receiver).log,
      (c.any q).log, (c.first q).log, (c.position q).log], PairsNegations log) ∧
    -- All of this is there at the finest level, and reads as follows, however values are described.
    (∀ log, logUpTo .trace log = log) ∧
    (∀ d, (LogEntry.dispatched d).level = .trace) ∧
    (∀ records found, (LogEntry.scanned records found).level = .debug) ∧
    (∀ e, (LogEntry.findFailed e).level = .warn) ∧
    LogEntry.deferring.level = .debug ∧
    ∀ describe : Value → String,
      (∀ d, (LogEntry.dispatched d).message describe =
        d.op.key ++ " against " ++ LogEntry.itemText describe d.item) ∧
      (∀ records found, (LogEntry.scanned records found).message describe =
        "scanned " ++ toString records ++ " records, " ++ toString found ++ " matched") ∧
      (∀ e, (LogEntry.findFailed e).message describe = "find failed: " ++ e.message ∧
        e.message = "scan failed at record " ++ toString e.index ++ ": " ++ e.cause.message) ∧
      LogEntry.deferring.message describe = "deferring find callback" := by
  refine ⟨fun hits => log_sieve_of_ok,
    fun e h => ⟨result_sieve_eq_error_iff.mp h, log_sieve_of_error h⟩, rfl, ?find_ok, ?find_error,
    result_find_eq_none_iff, not_mem_log_find_of_warn, log_defer receiver,
    fun i r => log_position_of_reaches, log_position_of_misses, rfl, rfl, ?before,
    fun rs entry => Criteria.exists_dispatch_of_mem_traces, Operator.exists_dispatches_apply,
    Operator.apply_noneOf, ?pairs, logUpTo_trace, fun d => rfl, fun records found => rfl,
    fun e => rfl, rfl, fun describe => ⟨fun d => rfl, fun records found => rfl,
      fun e => ⟨rfl, rfl⟩, rfl⟩⟩
  case find_ok =>
    intro hits h
    rw [log_find, h]
    exact List.append_nil _
  case find_error =>
    intro e h
    rw [log_find, h]
    rfl
  case before =>
    obtain ⟨later, hlater⟩ := upTo_prefix_upTo (fun r => Criteria.Misses.decided (q := q)) c.records
    rw [filter_log_sieve, log_position, ← hlater, Criteria.traces_append]
    exact List.prefix_append ..
  case pairs =>
    simp only [List.forall_mem_cons]
    exact ⟨tracesFirst_sieve.pairsNegations, tracesFirst_sieve.pairsNegations,
      tracesFirst_find.pairsNegations, (tracesFirst_defer receiver).pairsNegations,
      tracesFirst_position.pairsNegations, tracesFirst_position.pairsNegations,
      tracesFirst_position.pairsNegations, by simp⟩

/-- The second record cannot be decided: there is no summary, and the negated membership, which
complains in the name of the plain one, is logged with it. -/
example :
    let q : Criteria := [("a", .nested [("$exists", .literal .null), ("$nin", .literal .null)])]
    let c : Collection := ⟨[.object [], .object [("a", .scalar .null)], .object []]⟩
    (c.find q).log = [.dispatched ⟨.present, none⟩, .dispatched ⟨.present, some (.scalar .null)⟩,
      .dispatched ⟨.noneOf, some (.scalar .null)⟩, .dispatched ⟨.oneOf, some (.scalar .null)⟩,
      .findFailed ⟨1, .mismatch .oneOf .list .null⟩] := by
  decide +kernel

end Collection

end RecordSieve
