import Mathlib.Data.List.TakeWhile
import RecordSieve.Proofs.Desk

/-!
# The lifetime of deliveries

A delivery lives from the step that starts it to the step that drops it or starts another one
under its name, or else to the clearing of the desk. In between come any steps, on its own name
and on others.

**`delivered_once`** follows all deliveries of a run. Over the whole run each name is delivered
the outcomes of the searches that were started under it, once each and in order. Within the life of
one delivery it is the second poll that delivers, or the end if there were fewer polls, and every
other step leaves it alone.
-/

namespace RecordSieve

namespace Desk

/-- The desk after steps. -/
def after (c : Collection) (desk : Desk) (steps : List Step) : Desk :=
  steps.foldl (fun desk s => (desk.step c s).2) desk

/-- The reports of steps. -/
def reports (c : Collection) : Desk → List Step → List Report
  | _, [] => []
  | desk, s :: steps => (desk.step c s).1 :: reports c (desk.step c s).2 steps

/-- What was delivered to a receiver according to reports. -/
def deliveredTo (name : String) (rs : List Report) : List Outcome :=
  rs.flatMap (Report.deliveredTo name)

/-- The number of polls of the delivery of a name during steps. -/
def pollsIn (name : String) (steps : List Step) : Nat := steps.foldl (Step.pollsOf name) 0

/-- The steps up to the one that ends the life of the delivery of a name. -/
def lifeOf (name : String) (steps : List Step) : List Step := steps.takeWhile (!·.ends name)

/-- The report of what ends the life of the delivery of a name: the first of the steps that does,
or, after all of them, the clearing of the desk. -/
def ending (c : Collection) (name : String) (desk : Desk) (steps : List Step) : Report :=
  match steps.dropWhile (!·.ends name) with
  | s :: _ => ((desk.after c (lifeOf name steps)).step c s).1
  | [] => (desk.after c (lifeOf name steps)).clear

variable {c : Collection} {desk : Desk} {name : String} {outcome : Outcome} {polls : Nat}

theorem deliveredTo_append (name : String) (rs rs' : List Report) :
    deliveredTo name (rs ++ rs') = deliveredTo name rs ++ deliveredTo name rs' :=
  List.flatMap_append

theorem deliveredTo_singleton (name : String) (r : Report) :
    deliveredTo name [r] = r.deliveredTo name :=
  List.flatMap_singleton ..

/-! ### Runs -/

theorem Sound.after (h : Sound desk) (steps : List Step) : Sound (desk.after c steps) := by
  induction steps generalizing desk with
  | nil => exact h
  | cons s steps ih => exact ih (h.step s)

/-- A run conserves what is to be delivered to any name, as each of its steps does. -/
theorem Sound.run_conserves (h : Sound desk) (steps : List Step) (name : String) :
    deliveredTo name (reports c desk steps) ++ owedIn ((desk.after c steps).lookup name) =
      owedIn (desk.lookup name) ++ steps.flatMap (Step.outcomes c name) := by
  induction steps generalizing desk with
  | nil => exact (List.append_nil _).symm
  | cons s steps ih =>
    have hrest := ih (h.step (c := c) s)
    have hfirst := h.conserves (c := c) s name
    calc deliveredTo name (reports c desk (s :: steps)) ++
          owedIn ((desk.after c (s :: steps)).lookup name)
        = (desk.step c s).1.deliveredTo name ++
            (deliveredTo name (reports c (desk.step c s).2 steps) ++
              owedIn (((desk.step c s).2.after c steps).lookup name)) := List.append_assoc ..
      _ = ((desk.step c s).1.deliveredTo name ++ owedIn ((desk.step c s).2.lookup name)) ++
            steps.flatMap (Step.outcomes c name) := by rw [hrest, List.append_assoc]
      _ = owedIn (desk.lookup name) ++ (s :: steps).flatMap (Step.outcomes c name) := by
        rw [hfirst, List.append_assoc, List.flatMap_cons]

/-- From the empty desk to its clearing, each name is delivered the outcomes of the searches that
were started under it. -/
theorem deliveredTo_run (c : Collection) (steps : List Step) (name : String) :
    deliveredTo name (reports c [] steps ++ [(after c [] steps).clear]) =
      steps.flatMap (Step.outcomes c name) := by
  have hsound : Sound (after c [] steps) := sound_nil.after steps
  rw [deliveredTo_append, deliveredTo_singleton, hsound.deliveredTo_clear,
    sound_nil.run_conserves steps name]
  rfl

/-! ### One life -/

theorem ends_of_mem_lifeOf {s : Step} {steps : List Step} (h : s ∈ lifeOf name steps) :
    s.ends name = false := by
  have hs := List.mem_takeWhile_imp h
  simpa using hs

theorem lookup_after_of_not_ends (h : desk.lookup name = some (.aged name outcome polls))
    {steps : List Step} (hs : ∀ s ∈ steps, s.ends name = false) :
    (desk.after c steps).lookup name =
      some (.aged name outcome (steps.foldl (Step.pollsOf name) polls)) := by
  induction steps generalizing desk polls with
  | nil => exact h
  | cons s steps ih =>
    have hnext := lookup_step_of_not_ends (c := c) h (hs s List.mem_cons_self)
    exact ih hnext fun t ht => hs t (List.mem_cons_of_mem s ht)

/-- Nothing is started under the name in the life of its delivery. -/
theorem flatMap_outcomes_lifeOf (c : Collection) (name : String) (steps : List Step) :
    (lifeOf name steps).flatMap (Step.outcomes c name) = [] := by
  refine List.flatMap_eq_nil_iff.mpr fun s hs => ?_
  have hends := ends_of_mem_lifeOf hs
  cases s with
  | start other q =>
    have hne : other ≠ name := by simpa [Step.ends, Step.drops, Step.name] using hends
    exact if_neg hne
  | poll other | run other | isPending other | describe other | drop other => rfl

/-- In life, two polls are needed to deliver. -/
theorem Sound.deliveredTo_lifeOf (h : Sound desk)
    (hl : desk.lookup name = some (.aged name outcome 0)) (steps : List Step) :
    deliveredTo name (reports c desk (lifeOf name steps)) =
      if pollsIn name (lifeOf name steps) < 2 then [] else [outcome] := by
  have hlast : (desk.after c (lifeOf name steps)).lookup name =
      some (.aged name outcome (pollsIn name (lifeOf name steps))) :=
    lookup_after_of_not_ends hl fun s => ends_of_mem_lifeOf
  -- What is delivered in life and what is owed at its end are the outcome together.
  have hconserves := h.run_conserves (c := c) (lifeOf name steps) name
  rw [hlast, hl, owedIn_aged, owedIn_aged, flatMap_outcomes_lifeOf] at hconserves
  by_cases hp : pollsIn name (lifeOf name steps) < 2
  · simpa [Delivery.owed, hp] using hconserves
  · simpa [Delivery.owed, hp] using hconserves

/-- The end delivers what is owed. -/
theorem Sound.deliveredTo_ending {steps : List Step}
    (h : Sound (desk.after c (lifeOf name steps)))
    (hl : (desk.after c (lifeOf name steps)).lookup name = some (.aged name outcome polls)) :
    (ending c name desk steps).deliveredTo name = (Delivery.owed name outcome polls).map (·.2) := by
  rw [ending]
  split
  · next s _ heq =>
    have hends : s.ends name = true := by
      have hhead := List.head?_dropWhile_not (!·.ends name) steps
      rw [heq] at hhead
      simpa using hhead
    obtain ⟨hdrops, hname⟩ : s.drops = true ∧ s.name = name := by simpa [Step.ends] using hends
    subst hname
    rw [(step_act c _ s).1, hl]
    exact act_of_drops hdrops
  · rw [h.deliveredTo_clear, hl, owedIn_aged]

/-- **Every outcome is delivered exactly once**, over the run and in each life. For the life, a
search is started under a name after any steps, and any steps follow: `now` is any moment of it,
since the steps that follow may end there. -/
theorem delivered_once (c : Collection) (before rest : List Step) (name : String) (q : Criteria) :
    let desk := after c [] before
    let started := desk.step c (.start name q)
    let life := lifeOf name rest
    let now := after c started.2 life
    let polls := pollsIn name life
    let outcome := (c.sieve q).result
    let owed := Delivery.owed name outcome polls
    -- Over a run, each name is delivered what was found for it, once each and in order.
    (∀ steps other, deliveredTo other (reports c [] steps ++ [(after c [] steps).clear]) =
      steps.flatMap (Step.outcomes c other)) ∧
    -- This outcome is delivered in life, if there are two polls, and else at the end.
    deliveredTo name (reports c started.2 life) = (if polls < 2 then [] else [outcome]) ∧
    (ending c name started.2 rest).deliveredTo name = (if polls < 2 then [outcome] else []) ∧
    -- Starting delivers what was owed to the name before, and nothing else.
    (started.1.answer = .started ∧ started.1.wakes = 0 ∧
      started.1.delivered = (desk.happeningOfDrop name).delivered ∧
      (desk.lookup name = none → started.1.delivered = [])) ∧
    -- The first poll wakes, the second delivers, and all later ones do nothing.
    (now.step c (.poll name)).1 =
      ⟨if 0 < polls then .ready else .pending,
        if polls = 1 then [(name, outcome)] else [], if polls = 0 then 1 else 0, []⟩ ∧
    (now.step c (.run name)).1 =
      ⟨.polls (if polls = 0 then 2 else 1), owed, if polls = 0 then 1 else 0, []⟩ ∧
    -- Asking changes nothing, and the outcome is pending until it is delivered.
    now.step c (.isPending name) = (⟨.flag (decide (polls < 2)), [], 0, []⟩, now) ∧
    now.step c (.describe name) =
      (⟨.description ("Deferred \x7b pending: " ++ toString (decide (polls < 2)) ++
        ", yielded: " ++ toString (decide (0 < polls)) ++ " \x7d"), [], 0, []⟩, now) ∧
    -- Dropping delivers what is still owed, and only drops that deliver are logged as such.
    (now.step c (.drop name)).1 = ⟨.dropped, owed, 0, owed.map fun _ => .deliveredOnDrop⟩ ∧
    (∀ s, (now.step c s).1.log.count .deliveredOnDrop =
      if s.drops then (now.step c s).1.delivered.length else 0) ∧
    now.clear.log = now.clear.delivered.map (fun _ => .deliveredOnDrop) ∧
    -- No delivery has an outcome but no receiver, or a receiver but no outcome.
    (∀ other d, now.lookup other = some d → d.outcome.isSome = d.receiver.isSome) ∧
    -- A step on another name leaves this delivery and delivers nothing to it, and what a step
    -- does is the same on every desk with the same delivery under its name.
    (∀ s, s.name ≠ name → (now.step c s).2.lookup name = now.lookup name ∧
      (now.step c s).1.deliveredTo name = []) ∧
    ∀ s (desk' : Desk), desk'.lookup s.name = now.lookup s.name →
      (desk'.step c s).1 = (now.step c s).1 := by
  intro desk started life now polls outcome owed
  have hstarted : Sound started.2 := (sound_nil.after before).step _
  have hfresh : started.2.lookup name = some (.aged name outcome 0) :=
    (step_act c desk (.start name q)).2
  have hsound : Sound now := hstarted.after life
  have hnow : now.lookup name = some (.aged name outcome polls) :=
    lookup_after_of_not_ends hfresh fun s => ends_of_mem_lifeOf
  have howed : owed.map (·.2) = if polls < 2 then [outcome] else [] := by
    by_cases hp : polls < 2 <;> simp [owed, Delivery.owed, hp]
  have hact : ∀ s : Step, s.name = name →
      (now.step c s).1 = (s.act c (some (.aged name outcome polls))).1 := by
    rintro s rfl
    rw [(step_act c now s).1, hnow]
  refine ⟨deliveredTo_run c, hstarted.deliveredTo_lifeOf hfresh rest, ?ending,
    report_start c desk name q, ?poll, ?run, step_isPending hnow, step_describe hnow, ?drop,
    hsound.count_deliveredOnDrop, log_clear now, fun other d => hsound.isSome_outcome, ?others,
    fun s desk' => report_congr⟩
  case ending => rw [Sound.deliveredTo_ending hsound hnow, howed]
  case poll => rw [hact _ rfl, act_poll_aged]
  case run => rw [hact _ rfl, act_run_aged]
  case drop => rw [hact _ rfl, act_drop_aged]
  case others =>
    intro s hs
    exact ⟨lookup_step_of_ne s hs.symm, hsound.deliveredTo_of_ne hs.symm⟩

end Desk

end RecordSieve
