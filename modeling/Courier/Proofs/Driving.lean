import Courier.Proofs.Voyage
import Courier.Publish.Drive

set_option autoImplicit false

namespace Courier

theorem pending_cycle (b : Batch) (c : Client) (pending : (b.cycle c).1.stillPending = true) :
    (b.cycle c).1.success = none ∧ (b.cycle c).1.failure = none := by
  by_cases resolved : b.stage = .resolved
  · rw [b.cycle_resolved c resolved] at pending
    cases pending
  · cases unreadable : b.unreadable with
    | some fault =>
      rw [b.cycle_unreadable c fault resolved unreadable] at pending
      cases pending
    | none =>
      rw [b.cycle_readable c resolved unreadable] at pending ⊢
      rw [(b.advance_spec c).2] at pending ⊢
      simp only [Bool.not_eq_true', beq_eq_false_iff_ne] at pending
      rw [if_neg pending, if_neg pending]
      exact ⟨rfl, rfl⟩

theorem last_cycle (b : Batch) (c : Client) (last : (b.cycle c).1.stillPending = false) :
    (b.cycle c).2.1.stage = .resolved := by
  by_cases resolved : b.stage = .resolved
  · rw [b.cycle_resolved c resolved]
    exact resolved
  · cases unreadable : b.unreadable with
    | some fault => rw [b.cycle_unreadable c fault resolved unreadable]
    | none =>
      rw [b.cycle_readable c resolved unreadable] at last ⊢
      rw [(b.advance_spec c).2] at last
      rw [(b.advance_spec c).1]
      simpa using last

theorem run_events (s : Course) (events : List Tracker.Event) :
    (s.run (events.map .event)).batch =
        { s.batch with tracker := s.batch.tracker.applyAll events } ∧
      (s.run (events.map .event)).client = s.client ∧
      (s.run (events.map .event)).emitted = s.emitted := by
  induction events generalizing s with
  | nil => exact ⟨rfl, rfl, rfl⟩
  | cons e events ih => exact ih (s.step (.event e))

variable {σ : Type}

-- A course that has come as far as a ride.
structure Along (s : Course) (ride : Ride σ) : Prop where
  batch : s.batch = ride.batch
  client : s.client = ride.client

theorem along_cycle (s : Course) (ride : Ride σ) (along : Along s ride) :
    Along (s.step .cycle) ride.cycle.2 where
  batch := by
    simp only [Course.step, Ride.cycle, along.batch, along.client]
  client := by
    simp only [Course.step, Ride.cycle, along.batch, along.client]

theorem along_turn (scheduler : Scheduler σ) (progress : Bool) (s : Course) (ride : Ride σ)
    (along : Along s ride) :
    ∃ moves, Along (s.run moves) (ride.turn scheduler progress) ∧
      (s.run moves).emitted = s.emitted := by
  obtain ⟨batch, client, emitted⟩ := run_events s
    (scheduler.turn ride.clock progress ride.batch.tracker).1
  refine ⟨_, ⟨?_, ?_⟩, emitted⟩
  · rw [batch, along.batch]
    rfl
  · rw [client, along.client]
    rfl

theorem drive_last (scheduler : Scheduler σ) (left done : Nat) (ride : Ride σ)
    (last : ride.cycle.1.stillPending = false) :
    Ride.driveFrom scheduler left done ride =
      (.ok { cycles := done + 1, success := ride.cycle.1.success,
             failure := ride.cycle.1.failure }, ride.cycle.2) := by
  rw [Ride.driveFrom]
  simp [last]

theorem drive_more (scheduler : Scheduler σ) (left done : Nat) (ride : Ride σ)
    (pending : ride.cycle.1.stillPending = true) :
    Ride.driveFrom scheduler (left + 1) done ride =
      Ride.driveFrom scheduler left (done + 1)
        (ride.cycle.2.turn scheduler ride.cycle.1.madeProgress) := by
  rw [Ride.driveFrom]
  simp [pending]

theorem drive_from_course (scheduler : Scheduler σ) (left done : Nat) (ride : Ride σ) (s : Course)
    (report : DriveReport) (along : Along s ride)
    (ended : (Ride.driveFrom scheduler left done ride).1 = .ok report) :
    ∃ moves, Along (s.run moves) (Ride.driveFrom scheduler left done ride).2 ∧
      (s.run moves).batch.stage = .resolved ∧
      (s.run moves).emitted =
        (s.emitted.1 ++ report.success.toList, s.emitted.2 ++ report.failure.toList) := by
  have cycled := along_cycle s ride along
  have emitted := emitted_cycle s
  rw [along.batch, along.client] at emitted
  induction left generalizing done ride s with
  | zero =>
    cases pending : ride.cycle.1.stillPending with
    | true =>
      rw [Ride.driveFrom] at ended
      simp [pending] at ended
    | false =>
      rw [drive_last scheduler 0 done ride pending] at ended ⊢
      cases ended
      refine ⟨[.cycle], cycled, ?_, emitted⟩
      exact (congrArg Batch.stage cycled.batch).trans (last_cycle _ _ pending)
  | succ left ih =>
    cases pending : ride.cycle.1.stillPending with
    | false =>
      rw [drive_last scheduler (left + 1) done ride pending] at ended ⊢
      cases ended
      refine ⟨[.cycle], cycled, ?_, emitted⟩
      exact (congrArg Batch.stage cycled.batch).trans (last_cycle _ _ pending)
    | true =>
      rw [drive_more scheduler left done ride pending] at ended ⊢
      obtain ⟨moves, turned, still⟩ := along_turn scheduler ride.cycle.1.madeProgress _ _ cycled
      have next := emitted_cycle ((s.step .cycle).run moves)
      rw [turned.batch, turned.client] at next
      obtain ⟨more, along', resolved, brought⟩ := ih (done + 1) _ _ turned ended
        (along_cycle _ _ turned) next
      obtain ⟨success, failure⟩ := pending_cycle ride.batch ride.client pending
      refine ⟨.cycle :: (moves ++ more), ?_⟩
      have whole : s.run (.cycle :: (moves ++ more)) = ((s.step .cycle).run moves).run more :=
        Course.run_append _ moves more
      rw [still, emitted, success, failure] at brought
      rw [whole, brought]
      exact ⟨along', resolved, by simp⟩

theorem end_bounded (scheduler : Scheduler σ) (done : Nat) (ride : Ride σ)
    (out : DriveReport × Ride σ) (ended : ride.driveToEnd scheduler done = some out) :
    ∃ n, out.1.cycles = done + n + 1 ∧
      Ride.driveFrom scheduler n done ride = (.ok out.1, out.2) := by
  refine Ride.driveToEnd.partial_correctness scheduler
    (fun done ride out => ∃ n, out.1.cycles = done + n + 1 ∧
      Ride.driveFrom scheduler n done ride = (.ok out.1, out.2)) ?_ done ride out ended
  intro onward ih done ride out ended
  dsimp only at ended
  cases pending : ride.cycle.1.stillPending with
  | false =>
    rw [if_pos (by rw [pending]; rfl)] at ended
    cases ended
    exact ⟨0, rfl, drive_last scheduler 0 done ride pending⟩
  | true =>
    rw [if_neg (by rw [pending]; decide)] at ended
    obtain ⟨n, cycles, driven⟩ := ih _ _ _ ended
    refine ⟨n + 1, by omega, ?_⟩
    rw [drive_more scheduler n done ride pending]
    exact driven

theorem bounded_end (scheduler : Scheduler σ) (left done : Nat) (ride after : Ride σ)
    (report : DriveReport)
    (driven : Ride.driveFrom scheduler left done ride = (.ok report, after)) :
    ride.driveToEnd scheduler done = some (report, after) := by
  induction left generalizing done ride with
  | zero =>
    rw [Ride.driveToEnd]
    rw [Ride.driveFrom] at driven
    cases pending : ride.cycle.1.stillPending with
    | false =>
      simp only [pending] at driven ⊢
      cases driven
      rfl
    | true =>
      simp only [pending] at driven
      cases driven
  | succ left ih =>
    rw [Ride.driveToEnd]
    cases pending : ride.cycle.1.stillPending with
    | false =>
      rw [drive_last scheduler (left + 1) done ride pending] at driven
      cases driven
      simp only [pending]
      rfl
    | true =>
      rw [drive_more scheduler left done ride pending] at driven
      simp only [pending]
      exact ih _ _ driven

theorem drive_bounded (scheduler : Scheduler σ) (maxCycles : Option Nat) (ride : Ride σ)
    (out : Except Overrun DriveReport × Ride σ)
    (driven : ride.drive scheduler maxCycles = some out) :
    ∃ left, Ride.driveFrom scheduler left 0 ride = out ∧
      (∀ limit, maxCycles = some limit → left = limit - 1) ∧
      (maxCycles = none → ∃ report, out.1 = .ok report ∧ report.cycles = left + 1) := by
  cases maxCycles with
  | some limit =>
    refine ⟨limit - 1, Option.some.inj driven, ?_, nofun⟩
    rintro _ ⟨⟩
    rfl
  | none =>
    obtain ⟨⟨report, after⟩, ended, rfl⟩ := Option.map_eq_some_iff.mp driven
    obtain ⟨n, cycles, bounded⟩ := end_bounded scheduler 0 ride _ ended
    exact ⟨n, bounded, nofun, fun _ => ⟨report, rfl, by dsimp only at cycles; omega⟩⟩

/-- A drive without a limit does not end just where every drive with one is out of time. -/
theorem drive_endless (scheduler : Scheduler σ) (maxCycles : Option Nat) (ride : Ride σ) :
    ride.drive scheduler maxCycles = none ↔ maxCycles = none ∧
      ∀ limit, ∃ o after, ride.drive scheduler (some limit) = some (.error o, after) := by
  cases maxCycles with
  | some limit => simp [Ride.drive]
  | none =>
    rw [Ride.drive, Option.map_eq_none_iff]
    constructor
    · intro endless
      refine ⟨rfl, fun limit => ?_⟩
      cases driven : Ride.driveFrom scheduler (limit - 1) 0 ride with
      | mk result after =>
        cases result with
        | error o => exact ⟨o, after, congrArg some driven⟩
        | ok report =>
          rw [bounded_end scheduler _ 0 ride after report driven] at endless
          cases endless
    · rintro ⟨-, overruns⟩
      rw [Option.eq_none_iff_forall_not_mem]
      rintro ⟨report, after⟩ ended
      obtain ⟨n, -, bounded⟩ := end_bounded scheduler 0 ride _ ended
      obtain ⟨o, _, out⟩ := overruns (n + 1)
      rw [Ride.drive, Nat.add_sub_cancel, bounded] at out
      cases out

theorem drive_course (p : Publisher) (input : Input) (client : Client) (clock : σ)
    (scheduler : Scheduler σ) (maxCycles : Option Nat) (report : DriveReport) (after : Ride σ)
    (ended : Ride.drive scheduler maxCycles ⟨p.openBatch input, client, clock⟩ =
      some (.ok report, after)) :
    ∃ moves, Along ((Course.start p input client).run moves) after ∧
      ((Course.start p input client).run moves).batch.stage = .resolved ∧
      ((Course.start p input client).run moves).emitted =
        (report.success.toList, report.failure.toList) := by
  obtain ⟨left, bounded, _⟩ := drive_bounded scheduler maxCycles _ _ ended
  have course := drive_from_course scheduler left 0 _ (Course.start p input client) report
    ⟨rfl, rfl⟩ (by rw [bounded])
  rwa [bounded] at course

end Courier
