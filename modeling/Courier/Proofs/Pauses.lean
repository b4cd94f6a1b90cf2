import Courier.Proofs.Balance

set_option autoImplicit false

namespace Courier

namespace Ride

variable {σ : Type}

def lap (s : Scheduler σ) (r : Ride σ) : Ride σ := r.cycle.2.turn s r.cycle.1.madeProgress

def pause (s : Scheduler σ) (r : Ride σ) : List Tracker.Event :=
  (s.turn r.clock r.cycle.1.madeProgress r.cycle.2.batch.tracker).1

def pausesFrom (s : Scheduler σ) : Nat → Ride σ → List (List Tracker.Event)
  | 0, _ => []
  | left + 1, r =>
    if r.cycle.1.stillPending then r.pause s :: pausesFrom s left (r.lap s) else []

theorem pauses_last (r : Ride σ) (s : Scheduler σ) (left : Nat)
    (last : r.cycle.1.stillPending = false) : r.pausesFrom s left = [] := by
  cases left with
  | zero => rfl
  | succ left =>
    rw [pausesFrom, last]
    rfl

theorem pauses_more (r : Ride σ) (s : Scheduler σ) (left : Nat)
    (pending : r.cycle.1.stillPending = true) :
    r.pausesFrom s (left + 1) = r.pause s :: (r.lap s).pausesFrom s left := by
  rw [pausesFrom, pending]
  rfl

def pauses (s : Scheduler σ) (maxCycles : Option Nat) (r : Ride σ) : List (List Tracker.Event) :=
  match maxCycles with
  | some limit => r.pausesFrom s (limit - 1)
  | none =>
    match r.driveToEnd s 0 with
    | some (report, _) => r.pausesFrom s (report.cycles - 1)
    | none => []

theorem drive_paused (s : Scheduler σ) (maxCycles : Option Nat) (r : Ride σ)
    (out : Except Overrun DriveReport × Ride σ) (driven : r.drive s maxCycles = some out) :
    ∃ left, driveFrom s left 0 r = out ∧ r.pauses s maxCycles = r.pausesFrom s left ∧
      (∀ limit, maxCycles = some limit → left = limit - 1) ∧
      (maxCycles = none → ∃ report, out.1 = .ok report) := by
  obtain ⟨left, bounded, limited, endless⟩ := drive_bounded s maxCycles r out driven
  refine ⟨left, bounded, ?_, limited, fun unlimited => ?_⟩
  · cases maxCycles with
    | some limit => rw [pauses, limited limit rfl]
    | none =>
      obtain ⟨report, ended, cycles⟩ := endless rfl
      obtain ⟨⟨_, after⟩, reached, rfl⟩ := Option.map_eq_some_iff.mp driven
      cases ended
      simp only [pauses, reached, cycles, Nat.add_sub_cancel]
  · obtain ⟨report, ended, _⟩ := endless unlimited
    exact ⟨report, ended⟩

end Ride

def Move.paced : List (List Tracker.Event) → List Move
  | [] => [.cycle]
  | pause :: pauses => .cycle :: (pause.map .event ++ paced pauses)

theorem events_results (s : Course) (events : List Tracker.Event) :
    (s.run (events.map .event)).results = s.results := by
  induction events generalizing s with
  | nil => rfl
  | cons e events ih => exact ih (s.step (.event e))

theorem paced_pause (s : Course) (pause : List Tracker.Event)
    (pauses : List (List Tracker.Event)) :
    s.run (Move.paced (pause :: pauses)) =
      ((s.step .cycle).run (pause.map .event)).run (Move.paced pauses) :=
  Course.run_append (s.step .cycle) (pause.map .event) (Move.paced pauses)

variable {σ : Type}

theorem along_events (s : Course) (events : List Tracker.Event) (ride : Ride σ) (clock : σ)
    (along : Along s ride) :
    Along (s.run (events.map .event))
      { ride with batch := { ride.batch with tracker := ride.batch.tracker.applyAll events },
                  clock := clock } := by
  obtain ⟨batch, client, _⟩ := run_events s events
  refine ⟨?_, client.trans along.client⟩
  rw [batch, along.batch]

theorem along_lap (scheduler : Scheduler σ) (s : Course) (ride : Ride σ) (along : Along s ride) :
    Along ((s.step .cycle).run ((ride.pause scheduler).map .event)) (ride.lap scheduler) :=
  along_events (s.step .cycle) (ride.pause scheduler) ride.cycle.2 _ (along_cycle s ride along)

theorem drive_out (scheduler : Scheduler σ) (done : Nat) (ride : Ride σ)
    (pending : ride.cycle.1.stillPending = true) :
    Ride.driveFrom scheduler 0 done ride =
      (.error (ride.cycle.2.overrun (done + 1)), ride.cycle.2) := by
  rw [Ride.driveFrom]
  simp [pending]

-- A drive that has run its cycles: those before the last left the batch pending, and the last one
-- says how the drive ended. It may have had so many cycles after the first.
structure Ran (limit done : Nat) (s s' : Course) (out : Except Overrun DriveReport × Ride σ)
    (early : List Batch.CycleResult) (last : Batch.CycleResult) : Prop where
  along : Along s' out.2
  results : s'.results = s.results ++ (early ++ [last])
  within : early.length ≤ limit
  pending : ∀ lap ∈ early, lap.stillPending = true
  counted : s'.batch.cycles = s.batch.cycles + (early.length + 1)
  resolved : s'.batch.stage = .resolved ↔ last.stillPending = false
  ended : last.stillPending = false →
    out.1 = .ok { cycles := done + (early.length + 1), success := last.success,
                  failure := last.failure }
  overran : last.stillPending = true → early.length = limit ∧
    out.1 = .error (out.2.overrun (done + (early.length + 1)))

theorem ran_last (limit done : Nat) (s : Course) (ride : Ride σ)
    (out : Except Overrun DriveReport × Ride σ) (along : Along s ride)
    (unresolved : s.batch.stage ≠ .resolved) (reached : out.2 = ride.cycle.2)
    (ended : ride.cycle.1.stillPending = false →
      out.1 = .ok { cycles := done + 1, success := ride.cycle.1.success,
                    failure := ride.cycle.1.failure })
    (overran : ride.cycle.1.stillPending = true →
      limit = 0 ∧ out.1 = .error (ride.cycle.2.overrun (done + 1))) :
    Ran limit done s (s.step .cycle) out [] ride.cycle.1 where
  along := by
    rw [reached]
    exact along_cycle s ride along
  results := by
    rw [Ride.cycle, ← along.batch, ← along.client]
    rfl
  within := Nat.zero_le _
  pending := by simp
  counted := by
    rcases s.batch.cycle_counted s.client with ⟨resolved, _⟩ | ⟨_, next⟩
    · exact absurd resolved unresolved
    · exact next
  resolved := by
    have pending := s.batch.cycle_pending s.client
    rw [Ride.cycle, ← along.batch, ← along.client]
    rw [← Bool.not_eq_true]
    exact (not_congr pending).trans not_ne_iff |>.symm
  ended := ended
  overran pending := by
    obtain ⟨none_left, out⟩ := overran pending
    exact ⟨none_left.symm, by rw [reached]; exact out⟩

theorem ran_lap (scheduler : Scheduler σ) (limit done : Nat) (s s' : Course) (ride : Ride σ)
    (out : Except Overrun DriveReport × Ride σ) (early : List Batch.CycleResult)
    (last : Batch.CycleResult) (along : Along s ride) (unresolved : s.batch.stage ≠ .resolved)
    (pending : ride.cycle.1.stillPending = true)
    (ran : Ran limit (done + 1) ((s.step .cycle).run ((ride.pause scheduler).map .event)) s' out
      early last) :
    Ran (limit + 1) done s s' out (ride.cycle.1 :: early) last where
  along := ran.along
  results := by
    rw [ran.results, events_results, Ride.cycle, ← along.batch, ← along.client]
    simp [Course.step]
  within := Nat.succ_le_succ ran.within
  pending lap member := by
    rcases List.mem_cons.mp member with rfl | later
    · exact pending
    · exact ran.pending lap later
  counted := by
    have heard := (run_events (s.step .cycle) (ride.pause scheduler)).1
    rcases s.batch.cycle_counted s.client with ⟨resolved, _⟩ | ⟨_, next⟩
    · exact absurd resolved unresolved
    · have now : (s.step .cycle).batch.cycles = s.batch.cycles + 1 := next
      rw [ran.counted, heard, List.length_cons]
      change (s.step .cycle).batch.cycles + _ = _
      omega
  resolved := ran.resolved
  ended finished := by
    rw [ran.ended finished, List.length_cons, Nat.add_right_comm, Nat.add_assoc]
  overran waits := by
    obtain ⟨all, out⟩ := ran.overran waits
    rw [out, List.length_cons, all, Nat.add_right_comm, Nat.add_assoc]
    exact ⟨rfl, rfl⟩

theorem drive_ran (scheduler : Scheduler σ) (left done : Nat) (ride : Ride σ) (s : Course)
    (along : Along s ride) (unresolved : s.batch.stage ≠ .resolved) :
    ∃ early last, early.length = (ride.pausesFrom scheduler left).length ∧
      Ran left done s (s.run (Move.paced (ride.pausesFrom scheduler left)))
        (Ride.driveFrom scheduler left done ride) early last := by
  induction left generalizing done ride s with
  | zero =>
    refine ⟨[], ride.cycle.1, rfl, ran_last 0 done s ride _ along unresolved ?_ ?_ ?_⟩
    · cases pending : ride.cycle.1.stillPending with
      | true => rw [drive_out scheduler done ride pending]
      | false => rw [drive_last scheduler 0 done ride pending]
    · intro ended
      rw [drive_last scheduler 0 done ride ended]
    · intro pending
      rw [drive_out scheduler done ride pending]
      exact ⟨rfl, rfl⟩
  | succ left ih =>
    cases pending : ride.cycle.1.stillPending with
    | false =>
      have drive := drive_last scheduler (left + 1) done ride pending
      rw [ride.pauses_last scheduler (left + 1) pending, drive]
      refine ⟨[], ride.cycle.1, rfl, ran_last (left + 1) done s ride _ along unresolved rfl
        (fun _ => rfl) fun waits => ?_⟩
      rw [pending] at waits
      cases waits
    | true =>
      have heard := (run_events (s.step .cycle) (ride.pause scheduler)).1
      have still : ((s.step .cycle).run ((ride.pause scheduler).map .event)).batch.stage ≠
          .resolved := by
        rw [heard]
        have waits := (s.batch.cycle_pending s.client).mp
        rw [Ride.cycle, ← along.batch, ← along.client] at pending
        exact waits pending
      obtain ⟨early, last, length, ran⟩ := ih (done + 1) (ride.lap scheduler) _
        (along_lap scheduler s ride along) still
      rw [ride.pauses_more scheduler left pending, paced_pause,
        drive_more scheduler left done ride pending]
      exact ⟨ride.cycle.1 :: early, last, by rw [List.length_cons, length, List.length_cons],
        ran_lap scheduler left done s _ ride _ early last along unresolved pending ran⟩

end Courier
