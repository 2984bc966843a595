import RecordSieve.Proofs.Delivery
import RecordSieve.Proofs.Fields
import RecordSieve.Proofs.Logging

/-!
# Steps on a desk

A step changes only what stands under its own name, and what it does depends on that alone
(`step_act`). On desks that are reached by steps, every delivery is aged by its polls and has the
name under which it stands as its receiver: `Sound` is kept by every step. There, what a step
delivers to a name and what is owed to it afterwards are together what was owed before and what
the step starts (`Sound.conserves`), so that no outcome is lost and none is delivered twice. Where
the desk is cleared, each name is delivered what it is owed.
-/

namespace RecordSieve

namespace Desk

/-! ### Steps -/

/-- The name that a step is about. -/
def Step.name : Step → String
  | .start name _ | .poll name | .run name | .isPending name | .describe name | .drop name => name

/-- Does the step drop what stands under its name? -/
def Step.drops : Step → Bool
  | .start _ _ | .drop _ => true
  | .poll _ | .run _ | .isPending _ | .describe _ => false

/-- Does the step end the life of the delivery of a name? -/
def Step.ends (s : Step) (name : String) : Bool := s.drops && s.name == name

/-- The number of polls of the delivery of a name after a step, which polls it once, or as often
as it takes until the delivery is ready, or not at all. -/
def Step.pollsOf (name : String) (polls : Nat) : Step → Nat
  | .poll other => if other = name then polls + 1 else polls
  | .run other => if other = name then max 2 (polls + 1) else polls
  | .start _ _ | .isPending _ | .describe _ | .drop _ => polls

/-- What a report says was delivered to a receiver. -/
def Report.deliveredTo (name : String) (r : Report) : List Outcome :=
  (r.delivered.filter (·.1 == name)).map (·.2)

variable {c : Collection} {desk desk' : Desk} {name other : String} {d : Delivery}
  {outcome : Outcome} {polls : Nat}

/-! ### What stands under a name -/

@[simp] theorem lookup_remove_self : (desk.remove name).lookup name = none := by
  rw [List.lookup_eq_none_iff]
  intro e he
  have hne := (List.mem_filter.mp he).2
  simpa [bne_comm] using hne

theorem lookup_remove_of_ne (h : other ≠ name) :
    (desk.remove name).lookup other = desk.lookup other := by
  induction desk with
  | nil => rfl
  | cons e desk ih =>
    obtain ⟨k, d⟩ := e
    by_cases hk : k = name
    · subst hk
      have hb : (other == k) = false := by simpa using h
      simpa [remove, List.lookup_cons, hb] using ih
    · by_cases ho : other = k
      · subst ho
        simp [remove, hk]
      · have hb : (other == k) = false := by simpa using ho
        simpa [remove, hk, List.lookup_cons, hb] using ih

theorem withDelivery_of_lookup {f : Delivery → Answer × Happening × Desk}
    (h : desk.lookup name = some d) :
    desk.withDelivery name f = (.of (f d).1 (f d).2.1, (f d).2.2) := by
  rw [withDelivery, h]

theorem withDelivery_of_lookup_eq_none {f : Delivery → Answer × Happening × Desk}
    (h : desk.lookup name = none) : desk.withDelivery name f = (.of .unknown {}, desk) := by
  rw [withDelivery, h]

/-- What holds of the desk and of what becomes of it holds afterwards. -/
theorem withDelivery_desk {P : Desk → Prop} {f : Delivery → Answer × Happening × Desk}
    (h : P desk) (hf : ∀ d, desk.lookup name = some d → P (f d).2.2) :
    P (desk.withDelivery name f).2 := by
  cases hl : desk.lookup name with
  | none =>
    rw [withDelivery_of_lookup_eq_none hl]
    exact h
  | some d =>
    rw [withDelivery_of_lookup hl]
    exact hf d hl

/-! ### One step -/

/-- A step leaves what stands under other names. -/
theorem lookup_step_of_ne (s : Step) (h : name ≠ s.name) :
    (desk.step c s).2.lookup name = desk.lookup name := by
  cases s with
  | start other q =>
    have hne : name ≠ other := h
    have hb : (name == other) = false := by simpa using hne
    simp only [step]
    rw [List.lookup_append, lookup_remove_of_ne hne]
    simp [List.lookup_cons, hb]
  | poll other | run other =>
    exact withDelivery_desk (P := (·.lookup name = _)) rfl fun d hl =>
      Fields.lookup_put_of_ne _ _ h
  | isPending other | describe other =>
    exact withDelivery_desk (P := (·.lookup name = _)) rfl fun d hl => rfl
  | drop other =>
    exact withDelivery_desk (P := (·.lookup name = _)) rfl fun d hl => lookup_remove_of_ne h

/-- What a step does with what stands under its name, and what it leaves there. -/
def Step.act (c : Collection) : Step → Option Delivery → Report × Option Delivery
  | .start name q, slot =>
    let h := slot.elim {} Delivery.drop
    (⟨.started, h.delivered, h.wakes, (c.sieve q).log ++ [.deferring] ++ h.log⟩,
      some (.fresh name (c.sieve q).result))
  | .poll _, some d => (.of (if d.poll.1 then .ready else .pending) d.poll.2.1, some d.poll.2.2)
  | .run _, some d => (.of (.polls d.run.1) d.run.2.1, some d.run.2.2)
  | .isPending _, some d => (.of (.flag d.isPending) {}, some d)
  | .describe _, some d => (.of (.description d.describe) {}, some d)
  | .drop _, some d => (.of .dropped d.drop, none)
  | _, none => (.of .unknown {}, none)

/-- What a step on a desk does, it does with what stands under its name. -/
theorem step_act (c : Collection) (desk : Desk) (s : Step) :
    (desk.step c s).1 = (s.act c (desk.lookup s.name)).1 ∧
      (desk.step c s).2.lookup s.name = (s.act c (desk.lookup s.name)).2 := by
  cases s with
  | start name q =>
    refine ⟨?_, ?_⟩
    · simp [step, Step.act, Step.name, Report.of, Happening.append, Collection.defer,
        happeningOfDrop]
    · have hl : (desk.remove name).lookup name = none := lookup_remove_self
      simp [step, Step.act, Step.name, List.lookup_append, hl, Collection.defer]
  | poll name | run name =>
    cases hl : desk.lookup name with
    | none =>
      rw [step, withDelivery_of_lookup_eq_none hl, Step.name, hl]
      exact ⟨rfl, rfl⟩
    | some d =>
      rw [step, withDelivery_of_lookup hl, Step.name, hl]
      exact ⟨rfl, Fields.lookup_put_self ..⟩
  | isPending name | describe name =>
    cases hl : desk.lookup name with
    | none =>
      rw [step, withDelivery_of_lookup_eq_none hl, Step.name, hl]
      exact ⟨rfl, rfl⟩
    | some d =>
      rw [step, withDelivery_of_lookup hl, Step.name, hl]
      exact ⟨rfl, rfl⟩
  | drop name =>
    cases hl : desk.lookup name with
    | none =>
      rw [step, withDelivery_of_lookup_eq_none hl, Step.name, hl]
      exact ⟨rfl, rfl⟩
    | some d =>
      rw [step, withDelivery_of_lookup hl, Step.name, hl]
      exact ⟨rfl, lookup_remove_self⟩

/-- On desks with the same delivery under its name, a step does the same. -/
theorem report_congr {s : Step} (h : desk'.lookup s.name = desk.lookup s.name) :
    (desk'.step c s).1 = (desk.step c s).1 := by
  rw [(step_act c desk' s).1, (step_act c desk s).1, h]

/-- Starting a search delivers what was owed to its name before, and nothing else. -/
theorem report_start (c : Collection) (desk : Desk) (name : String) (q : Criteria) :
    (desk.step c (.start name q)).1.answer = .started ∧
      (desk.step c (.start name q)).1.wakes = 0 ∧
      (desk.step c (.start name q)).1.delivered = (desk.happeningOfDrop name).delivered ∧
      (desk.lookup name = none → (desk.step c (.start name q)).1.delivered = []) := by
  rw [(step_act c desk (.start name q)).1, Step.name]
  refine ⟨rfl, ?_, rfl, fun hnone => ?_⟩
  · cases desk.lookup name <;> rfl
  · rw [hnone]
    rfl

/-! ### Steps on an aged delivery -/

theorem act_start_none (q : Criteria) :
    (Step.start name q).act c none =
      (⟨.started, [], 0, (c.sieve q).log ++ [.deferring]⟩,
      some (.aged name (c.sieve q).result 0)) := by
  simp [Step.act, Delivery.fresh_eq_aged]

theorem act_start_aged (q : Criteria) :
    (Step.start name q).act c (some (.aged other outcome polls)) =
      (⟨.started, Delivery.owed other outcome polls, 0,
        (c.sieve q).log ++ [.deferring] ++
          (Delivery.owed other outcome polls).map fun _ => .deliveredOnDrop⟩,
      some (.aged name (c.sieve q).result 0)) := by
  simp only [Step.act, Option.elim_some, Delivery.drop_aged, Delivery.fresh_eq_aged]

theorem act_poll_aged :
    (Step.poll name).act c (some (.aged other outcome polls)) =
      (⟨if 0 < polls then .ready else .pending,
        if polls = 1 then [(other, outcome)] else [], if polls = 0 then 1 else 0, []⟩,
      some (.aged other outcome (polls + 1))) := by
  simp [Step.act, Delivery.poll_aged, Report.of]

theorem act_run_aged :
    (Step.run name).act c (some (.aged other outcome polls)) =
      (⟨.polls (if polls = 0 then 2 else 1), Delivery.owed other outcome polls,
        if polls = 0 then 1 else 0, []⟩,
      some (.aged other outcome (max 2 (polls + 1)))) := by
  simp only [Step.act, Delivery.run_aged, Report.of]

theorem act_drop_aged :
    (Step.drop name).act c (some (.aged other outcome polls)) =
      (⟨.dropped, Delivery.owed other outcome polls, 0,
        (Delivery.owed other outcome polls).map fun _ => .deliveredOnDrop⟩, none) := by
  simp only [Step.act, Delivery.drop_aged, Report.of]

/-- Asking whether a delivery is pending leaves the desk as it is. -/
theorem step_isPending (h : desk.lookup name = some (.aged name outcome polls)) :
    desk.step c (.isPending name) = (⟨.flag (decide (polls < 2)), [], 0, []⟩, desk) := by
  rw [step, withDelivery_of_lookup h, Delivery.isPending_aged]
  rfl

/-- So does asking for its description. -/
theorem step_describe (h : desk.lookup name = some (.aged name outcome polls)) :
    desk.step c (.describe name) =
      (⟨.description ("Deferred \x7b pending: " ++ toString (decide (polls < 2)) ++
        ", yielded: " ++ toString (decide (0 < polls)) ++ " \x7d"), [], 0, []⟩, desk) := by
  rw [step, withDelivery_of_lookup h, Delivery.describe_aged]
  rfl

/-- What stands under a name, if anything, is aged and has the name as its receiver. -/
inductive Aged (name : String) : Option Delivery → Prop
  /-- There is no delivery. -/
  | none : Aged name none
  /-- There is one, after some polls. -/
  | some (outcome : Outcome) (polls : Nat) : Aged name (some (.aged name outcome polls))

theorem Aged.eq_aged {slot : Option Delivery} (h : Aged name slot) (hs : slot = .some d) :
    ∃ outcome polls, d = .aged name outcome polls := by
  cases h with
  | none => cases hs
  | some outcome polls => exact ⟨outcome, polls, (Option.some.inj hs).symm⟩

/-- Each step leaves an aged delivery or none. -/
theorem Aged.act {slot : Option Delivery} {s : Step} (h : Aged s.name slot) :
    Aged s.name (s.act c slot).2 := by
  cases h with
  | none =>
    cases s with
    | start name q => exact .some (c.sieve q).result 0
    | poll name | run name | isPending name | describe name | drop name => exact .none
  | some outcome polls =>
    cases s with
    | start name q =>
      rw [act_start_aged]
      exact .some _ _
    | poll name =>
      rw [act_poll_aged]
      exact .some _ _
    | run name =>
      rw [act_run_aged]
      exact .some _ _
    | isPending name | describe name => exact .some outcome polls
    | drop name => exact .none

/-- Only the receiver of an aged delivery is delivered to. -/
theorem Aged.receiver {slot : Option Delivery} {s : Step} (h : Aged s.name slot)
    {x : String × Outcome} (hx : x ∈ (s.act c slot).1.delivered) : x.1 = s.name := by
  cases h with
  | none => cases s <;> cases hx
  | some outcome polls =>
    cases s with
    | start name q =>
      rw [act_start_aged] at hx
      exact Delivery.fst_of_mem_owed hx
    | poll name =>
      rw [act_poll_aged] at hx
      by_cases hp : polls = 1
      · obtain rfl : x = (name, outcome) := by simpa [hp, Step.name] using hx
        rfl
      · simp [hp] at hx
    | run name =>
      rw [act_run_aged] at hx
      exact Delivery.fst_of_mem_owed hx
    | isPending name | describe name => cases hx
    | drop name =>
      rw [act_drop_aged] at hx
      exact Delivery.fst_of_mem_owed hx

/-- Starting a search logs no delivery of its own. -/
theorem count_deliveredOnDrop_start (q : Criteria) :
    ((c.sieve q).log ++ [LogEntry.deferring]).count LogEntry.deliveredOnDrop = 0 := by
  refine List.count_eq_zero.mpr fun hmem => ?_
  rcases List.mem_append.mp hmem with hsieve | hdefer
  · rcases Collection.mem_log_sieve hsieve with ⟨d, hd⟩ | ⟨hits, hd⟩ <;> cases hd
  · cases List.mem_singleton.mp hdefer

theorem count_deliveredOnDrop_owed (polls : Nat) :
    ((Delivery.owed name outcome polls).map fun _ => LogEntry.deliveredOnDrop).count
      .deliveredOnDrop = (Delivery.owed name outcome polls).length := by
  by_cases h : polls < 2 <;> simp [Delivery.owed, h]

/-- A delivery is logged as one on drop where something is dropped, and only there. -/
theorem Aged.count_deliveredOnDrop {slot : Option Delivery} {s : Step} (h : Aged s.name slot) :
    (s.act c slot).1.log.count .deliveredOnDrop =
      if s.drops then (s.act c slot).1.delivered.length else 0 := by
  cases h with
  | none =>
    cases s with
    | start name q =>
      rw [act_start_none, count_deliveredOnDrop_start]
      rfl
    | poll name | run name | isPending name | describe name | drop name => rfl
  | some outcome polls =>
    cases s with
    | start name q =>
      rw [act_start_aged, List.count_append, count_deliveredOnDrop_start,
        count_deliveredOnDrop_owed, Nat.zero_add]
      rfl
    | poll name =>
      rw [act_poll_aged]
      rfl
    | run name =>
      rw [act_run_aged]
      rfl
    | isPending name | describe name => rfl
    | drop name =>
      rw [act_drop_aged]
      exact count_deliveredOnDrop_owed polls

theorem deliveredTo_owed (r : Report) (h : r.delivered = Delivery.owed name outcome polls) :
    r.deliveredTo name = (Delivery.owed name outcome polls).map (·.2) := by
  rw [Report.deliveredTo, h]
  by_cases hp : polls < 2 <;> simp [Delivery.owed, hp]

/-! ### What is owed -/

/-- What would be delivered if what stands under a name were dropped. -/
def owedIn (slot : Option Delivery) : List Outcome :=
  (slot.elim {} Delivery.drop).delivered.map (·.2)

theorem owedIn_aged : owedIn (some (.aged name outcome polls)) =
    (Delivery.owed name outcome polls).map (·.2) := by
  rw [owedIn, Option.elim_some, Delivery.drop_aged]

/-- The outcome of the search that a step starts under a name. -/
def Step.outcomes (c : Collection) (name : String) : Step → List Outcome
  | .start other q => if other = name then [(c.sieve q).result] else []
  | .poll _ | .run _ | .isPending _ | .describe _ | .drop _ => []

/-- What is delivered and what is owed afterwards is what was owed before and what is started. -/
theorem Aged.conserves {slot : Option Delivery} {s : Step} (h : Aged s.name slot) :
    (s.act c slot).1.deliveredTo s.name ++ owedIn (s.act c slot).2 =
      owedIn slot ++ s.outcomes c s.name := by
  cases h with
  | none =>
    cases s with
    | start name q =>
      rw [act_start_none, owedIn_aged]
      simp [Report.deliveredTo, Step.outcomes, Step.name, owedIn]
    | poll name | run name | isPending name | describe name | drop name => rfl
  | some outcome polls =>
    cases s with
    | start name q =>
      rw [act_start_aged, deliveredTo_owed _ rfl, owedIn_aged, owedIn_aged]
      simp [Step.outcomes, Step.name]
    | poll name =>
      rw [act_poll_aged, owedIn_aged, owedIn_aged]
      -- Only the second poll delivers, and only from then on nothing is owed.
      match polls with
      | 0 => simp [Report.deliveredTo, Step.outcomes]
      | 1 => simp [Report.deliveredTo, Step.outcomes, Step.name, Delivery.owed_of_two_le]
      | n + 2 => simp [Report.deliveredTo, Step.outcomes, Delivery.owed_of_two_le]
    | run name =>
      rw [act_run_aged, deliveredTo_owed _ rfl, owedIn_aged, owedIn_aged,
        Delivery.owed_of_two_le (Nat.le_max_left 2 _)]
      rfl
    | isPending name | describe name =>
      simp [Step.act, Report.of, Report.deliveredTo, Step.outcomes]
    | drop name =>
      rw [act_drop_aged, deliveredTo_owed _ rfl, owedIn_aged]
      rfl

/-- A delivery that is not dropped counts its polls. -/
theorem act_of_not_drops {s : Step} (h : s.drops = false) :
    (s.act c (some (.aged s.name outcome polls))).2 =
      some (.aged s.name outcome (s.pollsOf s.name polls)) := by
  cases s with
  | start name q | drop name => cases h
  | poll name =>
    rw [act_poll_aged]
    simp [Step.pollsOf, Step.name]
  | run name =>
    rw [act_run_aged]
    simp [Step.pollsOf, Step.name]
  | isPending name | describe name => rfl

/-- A delivery that is dropped delivers what is owed. -/
theorem act_of_drops {s : Step} (h : s.drops = true) :
    (s.act c (some (.aged s.name outcome polls))).1.deliveredTo s.name =
      (Delivery.owed s.name outcome polls).map (·.2) := by
  cases s with
  | start name q =>
    rw [act_start_aged]
    exact deliveredTo_owed _ rfl
  | drop name =>
    rw [act_drop_aged]
    exact deliveredTo_owed _ rfl
  | poll name | run name | isPending name | describe name => cases h

/-! ### Desks that were reached -/

/-- Each name stands on the desk once, and its delivery is aged. -/
structure Sound (desk : Desk) : Prop where
  nodup : desk.keys.Nodup
  aged : ∀ name, Aged name (desk.lookup name)

theorem sound_nil : Sound [] := ⟨List.nodup_nil, fun _ => .none⟩

theorem nodup_keys_remove (h : desk.keys.Nodup) (name : String) : (desk.remove name).keys.Nodup :=
  List.Nodup.sublist (List.Sublist.map _ List.filter_sublist) h

theorem nodup_keys_step (h : desk.keys.Nodup) (s : Step) : (desk.step c s).2.keys.Nodup := by
  cases s with
  | start name q =>
    rw [step, Fields.keys, List.map_append, List.nodup_append]
    refine ⟨nodup_keys_remove h name, by simp, fun k hk k' hk' => ?_⟩
    obtain ⟨e, he, rfl⟩ := List.mem_map.mp hk
    obtain rfl : k' = name := by simpa using hk'
    simpa using (List.mem_filter.mp he).2
  | poll name | run name =>
    refine withDelivery_desk (P := fun desk => (Fields.keys desk).Nodup) h fun d hl => ?_
    simp only [Fields.keys_put, if_pos (Fields.mem_keys_of_lookup hl)]
    exact h
  | isPending name | describe name =>
    exact withDelivery_desk (P := fun desk => (Fields.keys desk).Nodup) h fun d hl => h
  | drop name =>
    exact withDelivery_desk (P := fun desk => (Fields.keys desk).Nodup) h fun d hl =>
      nodup_keys_remove h name

/-- A delivery has an outcome if and only if it has a receiver. -/
theorem Sound.isSome_outcome (h : Sound desk) (hl : desk.lookup name = some d) :
    d.outcome.isSome = d.receiver.isSome := by
  obtain ⟨outcome, polls, rfl⟩ := (h.aged name).eq_aged hl
  exact Delivery.isSome_outcome_aged name outcome polls

theorem Sound.count_deliveredOnDrop (h : Sound desk) (s : Step) :
    (desk.step c s).1.log.count .deliveredOnDrop =
      if s.drops then (desk.step c s).1.delivered.length else 0 := by
  rw [(step_act c desk s).1]
  exact (h.aged _).count_deliveredOnDrop

theorem Sound.step (h : Sound desk) (s : Step) : Sound (desk.step c s).2 := by
  refine ⟨nodup_keys_step h.nodup s, fun name => ?_⟩
  by_cases hn : name = s.name
  · subst hn
    rw [(step_act c desk s).2]
    exact (h.aged _).act
  · rw [lookup_step_of_ne s hn]
    exact h.aged name

/-- A step delivers to its own name only. -/
theorem Sound.deliveredTo_of_ne (h : Sound desk) {s : Step} (hn : name ≠ s.name) :
    (desk.step c s).1.deliveredTo name = [] := by
  rw [Report.deliveredTo, List.map_eq_nil_iff, List.filter_eq_nil_iff]
  intro x hx
  rw [(step_act c desk s).1] at hx
  rw [(h.aged _).receiver hx]
  simpa using hn.symm

/-- One step conserves what is to be delivered to any name. -/
theorem Sound.conserves (h : Sound desk) (s : Step) (name : String) :
    (desk.step c s).1.deliveredTo name ++ owedIn ((desk.step c s).2.lookup name) =
      owedIn (desk.lookup name) ++ s.outcomes c name := by
  by_cases hn : name = s.name
  · subst hn
    rw [(step_act c desk s).1, (step_act c desk s).2]
    exact (h.aged _).conserves
  · have hnone : s.outcomes c name = [] := by
      cases s with
      | start other q => exact if_neg fun heq => hn heq.symm
      | poll other | run other | isPending other | describe other | drop other => rfl
    rw [lookup_step_of_ne s hn, h.deliveredTo_of_ne hn, hnone, List.append_nil, List.nil_append]

/-- One step in the life of a delivery counts its polls. -/
theorem lookup_step_of_not_ends (h : desk.lookup name = some (.aged name outcome polls)) {s : Step}
    (hs : s.ends name = false) :
    (desk.step c s).2.lookup name = some (.aged name outcome (s.pollsOf name polls)) := by
  by_cases hn : name = s.name
  · subst hn
    have hdrops : s.drops = false := by simpa [Step.ends] using hs
    rw [(step_act c desk s).2, h]
    exact act_of_not_drops hdrops
  · have hpolls : s.pollsOf name polls = polls := by
      cases s with
      | poll other | run other => exact if_neg fun heq => hn heq.symm
      | start other q | isPending other | describe other | drop other => rfl
    rw [lookup_step_of_ne s hn, h, hpolls]

/-! ### Clearing -/

/-- When the desk is cleared, each name is delivered what it is owed. -/
theorem Sound.deliveredTo_clear (h : Sound desk) (name : String) :
    desk.clear.deliveredTo name = owedIn (desk.lookup name) := by
  -- What an entry of the desk delivers to the name when it is dropped.
  let share (e : String × Delivery) := (e.2.drop.delivered.filter (·.1 == name)).map (·.2)
  have hclear : desk.clear.deliveredTo name = desk.flatMap share := by
    rw [Report.deliveredTo, clear, List.filter_flatMap, List.map_flatMap]
  have hothers : ∀ es : List (String × Delivery), (∀ e ∈ es, e ∈ desk ∧ e.1 ≠ name) →
      es.flatMap share = [] := by
    intro es hes
    refine List.flatMap_eq_nil_iff.mpr fun ⟨other, d⟩ he => ?_
    obtain ⟨hmem, hne⟩ := hes _ he
    obtain ⟨outcome, polls, rfl⟩ := (h.aged other).eq_aged (Fields.lookup_of_mem h.nodup hmem)
    simp only [share, Delivery.drop_aged, List.map_eq_nil_iff, List.filter_eq_nil_iff]
    intro x hx
    rw [Delivery.fst_of_mem_owed hx]
    simpa using hne
  rw [hclear]
  cases hl : desk.lookup name with
  | none =>
    refine hothers desk fun e he => ⟨he, fun heq => ?_⟩
    have hne := List.lookup_eq_none_iff.mp hl e he
    simp [heq] at hne
  | some d =>
    obtain ⟨before, after, hdesk, -⟩ := List.lookup_eq_some_iff.mp hl
    obtain ⟨hbefore, hafter⟩ := Fields.ne_of_nodup_keys (hdesk ▸ h.nodup)
    obtain ⟨outcome, polls, rfl⟩ := (h.aged name).eq_aged hl
    have hsplit : desk.flatMap share = (before ++ (name, _) :: after).flatMap share :=
      congrArg _ hdesk
    have hself : share (name, .aged name outcome polls) =
        owedIn (some (.aged name outcome polls)) := by
      rw [owedIn_aged]
      simp only [share, Delivery.drop_aged]
      by_cases hp : polls < 2 <;> simp [Delivery.owed, hp]
    rw [hsplit, List.flatMap_append, List.flatMap_cons, hself,
      hothers before fun e he => ⟨by simp [hdesk, he], hbefore e he⟩,
      hothers after fun e he => ⟨by simp [hdesk, he], hafter e he⟩, List.nil_append,
      List.append_nil]

/-- The desk is cleared by dropping what stands on it, and each drop that delivers is logged. -/
theorem log_clear (desk : Desk) :
    desk.clear.log = desk.clear.delivered.map fun _ => .deliveredOnDrop := by
  simp only [clear, List.map_flatMap, Delivery.log_drop]

end Desk

end RecordSieve
