import RecordSieve.Collection

/-!
# Deferred deliveries

A search can be carried out now and its outcome delivered later. The outcome and its receiver are
kept in a `Delivery`, which whoever waits for it polls: the first poll delivers nothing but asks
to be polled again (it *wakes* the one who waits), and the second poll hands the outcome to its
receiver. A delivery that is dropped before does so at that moment. Handing over takes both the
outcome and the receiver out of the delivery, so that there is nothing left to be done twice.

Several deliveries are kept on a `Desk`, each under a name. The steps on a desk are data, and what
a step does is a `Report`: its answer, the outcomes delivered during it, the wakes and the log.
-/

namespace RecordSieve

/-- An outcome that is to be delivered. -/
structure Delivery where
  /-- The outcome, until it is taken. -/
  outcome : Option Outcome
  /-- The name of the one who receives the outcome, until it is taken. -/
  receiver : Option String
  /-- Has there been a poll? -/
  polled : Bool

/-- What happens while a delivery is polled or dropped. -/
structure Happening where
  /-- The outcomes that are delivered, with the names of their receivers. -/
  delivered : List (String × Outcome) := []
  /-- How often the one who waits is woken. -/
  wakes : Nat := 0
  /-- What is logged. -/
  log : List LogEntry := []

/-- Two happenings, one after the other. -/
def Happening.append (first second : Happening) : Happening :=
  ⟨first.delivered ++ second.delivered, first.wakes + second.wakes, first.log ++ second.log⟩

namespace Delivery

/-- A delivery that nobody has asked for yet. -/
def fresh (receiver : String) (outcome : Outcome) : Delivery := ⟨some outcome, some receiver, false⟩

/-- Is the outcome still to be delivered? -/
def isPending (d : Delivery) : Bool := d.receiver.isSome

/-- A description of the state. -/
def describe (d : Delivery) : String :=
  "Deferred \x7b pending: " ++ toString d.isPending ++ ", yielded: " ++ toString d.polled ++
    " \x7d"

/-- Takes the receiver and the outcome; if both are there, the outcome is handed over. -/
def deliver (d : Delivery) : List (String × Outcome) × Delivery :=
  let taken := { d with outcome := none, receiver := none }
  match d.receiver, d.outcome with
  | some receiver, some outcome => ([(receiver, outcome)], taken)
  | _, _ => ([], taken)

/-- Polls a delivery: the first time it only wakes, from the second time on it is ready and
delivers. Is it ready, comes first. -/
def poll (d : Delivery) : Bool × Happening × Delivery :=
  if d.polled then
    let (delivered, next) := d.deliver
    (true, { delivered }, next)
  else (false, { wakes := 1 }, { d with polled := true })

/-- Drops a delivery: an outcome that was not delivered is delivered now. -/
def drop (d : Delivery) : Happening :=
  let delivered := d.deliver.1
  { delivered, log := if delivered.isEmpty then [] else [.deliveredOnDrop] }

theorem polled_of_poll {d : Delivery} {h : Happening} {next : Delivery}
    (hp : d.poll = (false, h, next)) : d.polled = false ∧ next.polled = true := by
  cases hd : d.polled with
  | true => simp [poll, hd] at hp
  | false =>
    simp only [poll, hd, Bool.false_eq_true, if_false] at hp
    cases hp
    exact ⟨rfl, rfl⟩

/-- Polls until the delivery is ready. The number of polls comes first. -/
def run (d : Delivery) : Nat × Happening × Delivery :=
  match _ : d.poll with
  | (true, happening, next) => (1, happening, next)
  | (false, happening, next) =>
    let (polls, rest, last) := next.run
    (polls + 1, happening.append rest, last)
termination_by (!d.polled).toNat
decreasing_by
  obtain ⟨hd, hnext⟩ := polled_of_poll ‹_›
  simp [hd, hnext]

end Delivery

/-- Carries out a search now and keeps its outcome for later, for the receiver of that name. -/
def Collection.defer (c : Collection) (criteria : Criteria) (receiver : String) : Logged Delivery :=
  ((c.sieve criteria).before [.deferring]).map (Delivery.fresh receiver)

/-! ### The desk -/

/-- Deliveries under their names, in the order in which they were started. -/
abbrev Desk := Fields Delivery

namespace Desk

/-- A step on a desk. -/
inductive Step where
  /-- Starts a search under a name. -/
  | start (name : String) (criteria : Criteria)
  /-- Polls once. -/
  | poll (name : String)
  /-- Polls until the outcome is delivered. -/
  | run (name : String)
  /-- Asks whether the outcome is still to be delivered. -/
  | isPending (name : String)
  /-- Asks for a description. -/
  | describe (name : String)
  /-- Drops a delivery. -/
  | drop (name : String)

/-- The answer to a step. -/
inductive Answer where
  /-- The search was carried out. -/
  | started
  /-- The outcome is not there yet. -/
  | pending
  /-- The outcome has been delivered. -/
  | ready
  /-- The outcome has been delivered, after so many polls. -/
  | polls (n : Nat)
  /-- Yes or no. -/
  | flag (b : Bool)
  /-- A description. -/
  | description (s : String)
  /-- The delivery is gone. -/
  | dropped
  /-- There is no delivery of that name. -/
  | unknown
  /-- The desk is cleared; so many deliveries were left on it. -/
  | cleared (n : Nat)

/-- What a step did. -/
structure Report where
  /-- The answer. -/
  answer : Answer
  /-- The outcomes delivered during the step, with the names of their deliveries. -/
  delivered : List (String × Outcome)
  /-- How often someone was woken. -/
  wakes : Nat
  /-- What was logged. -/
  log : List LogEntry

namespace Report

/-- The report of an answer and of what happened. -/
def of (answer : Answer) (h : Happening) : Report := ⟨answer, h.delivered, h.wakes, h.log⟩

end Report

/-- The desk without the deliveries of a name. -/
def remove (name : String) (desk : Desk) : Desk := desk.filter fun (other, _) => other != name

/-- What happens when the delivery of a name, if there is one, is dropped. -/
def happeningOfDrop (name : String) (desk : Desk) : Happening :=
  (desk.lookup name).elim {} Delivery.drop

/-- Does something with the delivery of a name, if there is one. -/
def withDelivery (desk : Desk) (name : String) (f : Delivery → Answer × Happening × Desk) :
    Report × Desk :=
  match desk.lookup name with
  | none => (.of .unknown {}, desk)
  | some d =>
    let (answer, happening, desk) := f d
    (.of answer happening, desk)

/-- Carries out a step. A search started under a name that is taken takes the place of the
delivery of that name, which is dropped. -/
def step (c : Collection) (desk : Desk) : Step → Report × Desk
  | .start name criteria =>
    let deferred := c.defer criteria name
    let happening := Happening.append { log := deferred.log } (desk.happeningOfDrop name)
    (.of .started happening, desk.remove name ++ [(name, deferred.result)])
  | .poll name => desk.withDelivery name fun d =>
    let (ready, happening, next) := d.poll
    (if ready then .ready else .pending, happening, desk.put name next)
  | .run name => desk.withDelivery name fun d =>
    let (polls, happening, next) := d.run
    (.polls polls, happening, desk.put name next)
  | .isPending name => desk.withDelivery name fun d => (.flag d.isPending, {}, desk)
  | .describe name => desk.withDelivery name fun d => (.description d.describe, {}, desk)
  | .drop name => desk.withDelivery name fun d => (.dropped, d.drop, desk.remove name)

/-- Drops all deliveries that are left, in the order in which they were started. -/
def clear (desk : Desk) : Report :=
  ⟨.cleared desk.length, desk.flatMap fun (_, d) => d.drop.delivered, 0,
    desk.flatMap fun (_, d) => d.drop.log⟩

end Desk

end RecordSieve
