import RecordSieve.Delivery

/-!
# The life of a delivery

All that can become of a delivery is fixed by the number of its polls: it is *aged* by them. As
long as there were fewer than two, the outcome and its receiver are both there; afterwards neither
is, so the case of `Delivery.deliver` in which only one of them is left never comes up. What each
operation does to an aged delivery is said once and for all below.
-/

namespace RecordSieve

namespace Delivery

/-- A delivery after some polls. -/
def aged (receiver : String) (outcome : Outcome) (polls : Nat) : Delivery :=
  { outcome := if polls < 2 then some outcome else none
    receiver := if polls < 2 then some receiver else none
    polled := 0 < polls }

variable (receiver : String) (outcome : Outcome) (polls : Nat)

/-- From the second poll on a delivery stays as it is. -/
theorem aged_add_two :
    aged receiver outcome (polls + 2) = { outcome := none, receiver := none, polled := true } := by
  have h : ¬polls + 2 < 2 := by omega
  simp [aged, h]

theorem fresh_eq_aged : fresh receiver outcome = aged receiver outcome 0 := rfl

/-- Both slots are full or both are empty. -/
theorem isSome_outcome_aged :
    (aged receiver outcome polls).outcome.isSome =
      (aged receiver outcome polls).receiver.isSome := by
  rw [aged]
  split <;> rfl

theorem isPending_aged : (aged receiver outcome polls).isPending = decide (polls < 2) := by
  by_cases h : polls < 2 <;> simp [isPending, aged, h]

theorem describe_aged :
    (aged receiver outcome polls).describe =
      "Deferred \x7b pending: " ++ toString (decide (polls < 2)) ++ ", yielded: " ++
        toString (decide (0 < polls)) ++ " \x7d" := by
  have hpolled : (aged receiver outcome polls).polled = decide (0 < polls) := rfl
  unfold describe
  rw [isPending_aged, hpolled]

/-- What is still to be delivered after some polls. -/
def owed (receiver : String) (outcome : Outcome) (polls : Nat) : List (String × Outcome) :=
  if polls < 2 then [(receiver, outcome)] else []

@[simp] theorem owed_zero : owed receiver outcome 0 = [(receiver, outcome)] := rfl

@[simp] theorem owed_one : owed receiver outcome 1 = [(receiver, outcome)] := rfl

theorem owed_of_two_le {receiver : String} {outcome : Outcome} {polls : Nat} (h : 2 ≤ polls) :
    owed receiver outcome polls = [] :=
  if_neg (Nat.not_lt.mpr h)

theorem fst_of_mem_owed {receiver : String} {outcome : Outcome} {polls : Nat}
    {x : String × Outcome} (h : x ∈ owed receiver outcome polls) : x.1 = receiver := by
  rw [owed] at h
  split at h
  · rw [List.mem_singleton.mp h]
  · cases h

theorem deliver_aged :
    (aged receiver outcome polls).deliver =
      (owed receiver outcome polls,
        { outcome := none, receiver := none, polled := 0 < polls }) := by
  by_cases h : polls < 2 <;> simp [deliver, aged, owed, h]

/-- The first poll wakes, the second delivers, and all later ones do nothing. -/
theorem poll_aged :
    (aged receiver outcome polls).poll =
      (decide (0 < polls),
        { delivered := if polls = 1 then [(receiver, outcome)] else []
          wakes := if polls = 0 then 1 else 0 },
        aged receiver outcome (polls + 1)) := by
  match polls with
  | 0 => rfl
  | 1 => rfl
  | n + 2 =>
    rw [aged_add_two, show n + 2 + 1 = n + 1 + 2 by omega, aged_add_two]
    simp [poll, deliver]

/-- A delivery that is ready is polled once. -/
theorem run_of_polled {d : Delivery} (h : d.polled = true) : d.run = (1, d.poll.2) := by
  rw [run]
  split
  · next hp => rw [hp]
  · next hp => cases h.symm.trans (polled_of_poll hp).1

/-- A delivery that is not ready is polled, and what becomes of it is polled until ready. -/
theorem run_of_not_polled {d : Delivery} (h : d.polled = false) :
    d.run = ((d.poll.2.2.run).1 + 1, d.poll.2.1.append (d.poll.2.2.run).2.1,
      (d.poll.2.2.run).2.2) := by
  rw [run]
  split
  · next hp => simp [poll, h] at hp
  · next hp => rw [hp]

/-- Polling until ready takes two polls the first time and one from then on. -/
theorem run_aged :
    (aged receiver outcome polls).run =
      (if polls = 0 then 2 else 1,
        { delivered := owed receiver outcome polls, wakes := if polls = 0 then 1 else 0 },
        aged receiver outcome (max 2 (polls + 1))) := by
  match polls with
  | 0 =>
    rw [run_of_not_polled rfl, poll_aged]
    simp only
    rw [run_of_polled rfl, poll_aged]
    rfl
  | 1 => rw [run_of_polled rfl, poll_aged]; rfl
  | n + 2 =>
    have hpolls : ¬n + 2 < 2 := by omega
    have hmax : max 2 (n + 2 + 1) = n + 2 + 1 := by omega
    rw [run_of_polled (by simp [aged]), poll_aged, hmax]
    simp [owed, hpolls]

/-- What a drop delivers is logged, whatever the delivery. -/
theorem log_drop (d : Delivery) : d.drop.log = d.drop.delivered.map fun _ => .deliveredOnDrop := by
  obtain ⟨outcome, receiver, polled⟩ := d
  cases outcome <;> cases receiver <;> rfl

theorem drop_aged :
    (aged receiver outcome polls).drop =
      { delivered := owed receiver outcome polls
        log := (owed receiver outcome polls).map fun _ => .deliveredOnDrop } := by
  have hdelivered : (aged receiver outcome polls).drop.delivered = owed receiver outcome polls := by
    rw [drop, deliver_aged]
  rw [← hdelivered, ← log_drop]
  rfl

end Delivery

end RecordSieve
