import Courier.Proofs.Pauses
import Courier.Proofs.Schedules
import Courier.Proofs.Twins

set_option autoImplicit false

namespace Courier

variable {p : Publisher} {σ : Type}

theorem course_whole (p : Publisher) (input : Input) (client : Client) (moves : List Move) :
    ((Course.start p input client).run moves).batch.inFlight +
          ((Course.start p input client).run moves).batch.unsubmitted.length +
        ((Course.start p input client).run moves).batch.ledger.resolvedCount =
      ((Course.start p input client).run moves).batch.recordCount := by
  rcases read_cases p input.content with ⟨fault, read⟩ | ⟨records, parsed, nonempty⟩
  · obtain ⟨unsubmitted, ledger, count, held⟩ := barren_bare p input client moves fault read
    rw [unsubmitted, ledger, count, Batch.inFlight, held]
    rfl
  · obtain ⟨roster, rostered⟩ := rostered_run input client moves parsed nonempty
    have counted := mirrors_count rostered.mirrors
    rw [rostered.count, Ledger.resolvedCount, Batch.inFlight]
    omega

-- A drive that has run some cycles: it is out of time just if it had a limit, has run all cycles of
-- it, at least one, and its batch is still pending.
structure Timed (maxCycles : Option Nat) (s s' : Course) (out : Except Overrun DriveReport × Ride σ)
    (laps : List Batch.CycleResult) : Prop where
  along : Along s' out.2
  results : s'.results = s.results ++ laps
  within : ∀ limit, maxCycles = some limit → laps.length ≤ max limit 1
  counted : s'.batch.cycles = s.batch.cycles + laps.length
  timeout : (∃ o, out.1 = .error o) ↔
    ∃ limit, maxCycles = some limit ∧ laps.length = max limit 1 ∧ s'.batch.stage ≠ .resolved
  returned : ∀ report, out.1 = .ok report → s'.batch.stage = .resolved ∧
    ∃ early last, laps = early ++ [last] ∧ (∀ lap ∈ early, lap.stillPending = true) ∧
      last.stillPending = false ∧
      report = { cycles := laps.length, success := last.success, failure := last.failure }
  message : ∀ o, out.1 = .error o → o.cycles = laps.length ∧ o.inFlight = s'.batch.inFlight ∧
    o.unsubmitted = s'.batch.unsubmitted.length ∧
      o.inFlight + o.unsubmitted + s'.batch.ledger.resolvedCount = s'.batch.recordCount

theorem ran_report (limit : Nat) (s s' : Course) (out : Except Overrun DriveReport × Ride σ)
    (early : List Batch.CycleResult) (last : Batch.CycleResult)
    (ran : Ran limit 0 s s' out early last) (report : DriveReport) (ended : out.1 = .ok report) :
    last.stillPending = false ∧
      report = { cycles := early.length + 1, success := last.success,
                 failure := last.failure } := by
  cases waits : last.stillPending with
  | true =>
    rw [(ran.overran waits).2] at ended
    cases ended
  | false =>
    rw [ran.ended waits] at ended
    cases ended
    exact ⟨rfl, by simp⟩

theorem ran_overrun (limit : Nat) (s s' : Course) (out : Except Overrun DriveReport × Ride σ)
    (early : List Batch.CycleResult) (last : Batch.CycleResult)
    (ran : Ran limit 0 s s' out early last) (o : Overrun) (ended : out.1 = .error o) :
    last.stillPending = true ∧ early.length = limit ∧ o = out.2.overrun (early.length + 1) := by
  cases waits : last.stillPending with
  | false =>
    rw [ran.ended waits] at ended
    cases ended
  | true =>
    obtain ⟨all, overran⟩ := ran.overran waits
    rw [overran] at ended
    cases ended
    exact ⟨rfl, all, by simp⟩

theorem ran_timed (maxCycles : Option Nat) (left : Nat) (s s' : Course)
    (out : Except Overrun DriveReport × Ride σ) (early : List Batch.CycleResult)
    (last : Batch.CycleResult) (limited : ∀ limit, maxCycles = some limit → left = limit - 1)
    (endless : maxCycles = none → ∃ report, out.1 = .ok report)
    (ran : Ran left 0 s s' out early last)
    (whole : s'.batch.inFlight + s'.batch.unsubmitted.length + s'.batch.ledger.resolvedCount =
      s'.batch.recordCount) :
    Timed maxCycles s s' out (early ++ [last]) := by
  have length : (early ++ [last]).length = early.length + 1 := by simp
  refine ⟨ran.along, ran.results, ?_, ?_, ?_, ?_, ?_⟩
  · intro limit bound
    have within := ran.within
    have left_over := limited limit bound
    omega
  · rw [length]
    exact ran.counted
  · rw [ne_eq, ran.resolved, Bool.not_eq_false]
    constructor
    · rintro ⟨o, out⟩
      obtain ⟨waits, all, _⟩ := ran_overrun left s s' _ early last ran o out
      cases maxCycles with
      | none =>
        obtain ⟨report, ended⟩ := endless rfl
        rw [ended] at out
        cases out
      | some limit =>
        have left_over := limited limit rfl
        exact ⟨limit, rfl, by omega, waits⟩
    · rintro ⟨_, _, _, waits⟩
      exact ⟨_, (ran.overran waits).2⟩
  · intro report ended
    obtain ⟨waits, rfl⟩ := ran_report left s s' out early last ran report ended
    exact ⟨ran.resolved.mpr waits, early, last, rfl, ran.pending, waits, by rw [length]⟩
  · intro o ended
    obtain ⟨_, _, rfl⟩ := ran_overrun left s s' out early last ran o ended
    have rest : s'.batch.recordCount - s'.batch.submittedCount = s'.batch.unsubmitted.length := by
      rw [Batch.submittedCount]
      omega
    rw [Ride.overrun, ← ran.along.batch, rest]
    exact ⟨length.symm, rfl, rfl, whole⟩

theorem drive_timed (p : Publisher) (input : Input) (client : Client) (moves : List Move)
    (scheduler : Scheduler σ) (clock : σ) (maxCycles : Option Nat) (s : Course)
    (reached : (Course.start p input client).run moves = s)
    (unresolved : s.batch.stage ≠ .resolved) (out : Except Overrun DriveReport × Ride σ)
    (driven : Ride.drive scheduler maxCycles ⟨s.batch, s.client, clock⟩ = some out) :
    ∃ laps, Timed maxCycles s
      (s.run (Move.paced (Ride.pauses scheduler maxCycles ⟨s.batch, s.client, clock⟩)))
      out laps := by
  obtain ⟨left, rfl, paused, limited, endless⟩ :=
    Ride.drive_paused scheduler maxCycles _ out driven
  obtain ⟨early, last, _, ran⟩ := drive_ran scheduler left 0 ⟨s.batch, s.client, clock⟩ s
    ⟨rfl, rfl⟩ unresolved
  rw [paused]
  refine ⟨early ++ [last], ran_timed maxCycles left s _ _ early last limited endless ran ?_⟩
  rw [← reached, ← Course.run_append]
  exact course_whole p input client _

def Batch.hear (b : Batch) (heard : List Tracker.Event) : Batch :=
  { b with tracker := b.tracker.applyAll heard }

structure Leg (σ : Type) where
  scheduler : Scheduler σ
  clock : σ
  limit : Option Nat

namespace Leg

def drive (leg : Leg σ) (b : Batch) (c : Client) : Option (Except Overrun DriveReport × Ride σ) :=
  Ride.drive leg.scheduler leg.limit ⟨b, c, leg.clock⟩

def pauses (leg : Leg σ) (b : Batch) (c : Client) : List (List Tracker.Event) :=
  Ride.pauses leg.scheduler leg.limit ⟨b, c, leg.clock⟩

end Leg

def driveOn : Leg σ → List (List Tracker.Event × Leg σ) → Batch → Client →
    Option (List (Except Overrun DriveReport) × Ride σ)
  | leg, [], b, c => do
    let (result, ride) ← leg.drive b c
    return ([result], ride)
  | leg, (heard, next) :: more, b, c => do
    let (result, ride) ← leg.drive b c
    let (results, last) ← driveOn next more (ride.batch.hear heard) ride.client
    return (result :: results, last)

def pausesOn : Leg σ → List (List Tracker.Event × Leg σ) → Batch → Client →
    List (List Tracker.Event)
  | leg, [], b, c => leg.pauses b c
  | leg, (heard, next) :: more, b, c =>
    match leg.drive b c with
    | some (_, ride) =>
      leg.pauses b c ++ heard :: pausesOn next more (ride.batch.hear heard) ride.client
    | none => []

theorem paced_append (pauses more : List (List Tracker.Event)) (heard : List Tracker.Event) :
    Move.paced (pauses ++ heard :: more) =
      Move.paced pauses ++ (heard.map .event ++ Move.paced more) := by
  induction pauses with
  | nil => rfl
  | cons pause pauses ih =>
    rw [List.cons_append, Move.paced, Move.paced, ih, List.cons_append, List.append_assoc]

theorem drives_last (leg : Leg σ) (b : Batch) (c : Client)
    (results : List (Except Overrun DriveReport)) (last : Ride σ)
    (driven : driveOn leg [] b c = some (results, last)) :
    ∃ result, leg.drive b c = some (result, last) ∧ results = [result] := by
  obtain ⟨⟨result, ride⟩, first, done⟩ := Option.bind_eq_some_iff.mp driven
  cases done
  exact ⟨result, first, rfl⟩

theorem drives_first (leg next : Leg σ) (heard : List Tracker.Event)
    (more : List (List Tracker.Event × Leg σ)) (b : Batch) (c : Client)
    (results : List (Except Overrun DriveReport)) (last : Ride σ)
    (driven : driveOn leg ((heard, next) :: more) b c = some (results, last)) :
    ∃ result ride others, leg.drive b c = some (result, ride) ∧
      driveOn next more (ride.batch.hear heard) ride.client = some (others, last) ∧
      results = result :: others := by
  obtain ⟨⟨result, ride⟩, first, rest⟩ := Option.bind_eq_some_iff.mp driven
  obtain ⟨⟨others, end_⟩, onward, done⟩ := Option.bind_eq_some_iff.mp rest
  cases done
  exact ⟨result, ride, others, first, onward, rfl⟩

theorem pauses_first (leg : Leg σ) (turn : List Tracker.Event × Leg σ)
    (more : List (List Tracker.Event × Leg σ)) (b : Batch) (c : Client)
    (result : Except Overrun DriveReport) (ride : Ride σ)
    (driven : leg.drive b c = some (result, ride)) :
    pausesOn leg (turn :: more) b c = leg.pauses b c ++
      turn.1 :: pausesOn turn.2 more (ride.batch.hear turn.1) ride.client := by
  obtain ⟨heard, next⟩ := turn
  rw [pausesOn, driven]

theorem pauses_cut (leg : Leg σ) (before after : List (List Tracker.Event × Leg σ))
    (turn : List Tracker.Event × Leg σ) (b : Batch) (c : Client)
    (results : List (Except Overrun DriveReport)) (last : Ride σ)
    (driven : driveOn leg (before ++ turn :: after) b c = some (results, last)) :
    ∃ more, pausesOn leg (before ++ turn :: after) b c =
      pausesOn leg before b c ++ turn.1 :: more := by
  induction before generalizing leg b c results with
  | nil =>
    obtain ⟨_, ride, _, first, _, _⟩ := drives_first leg turn.2 turn.1 after b c results last driven
    exact ⟨_, pauses_first leg turn after b c _ ride first⟩
  | cons turn' before ih =>
    obtain ⟨_, ride, others, first, rest, _⟩ :=
      drives_first leg turn'.2 turn'.1 (before ++ turn :: after) b c results last driven
    obtain ⟨more, cut⟩ := ih turn'.2 _ _ others rest
    refine ⟨more, ?_⟩
    rw [List.cons_append, pauses_first leg turn' _ b c _ ride first, cut,
      pauses_first leg turn' _ b c _ ride first, List.append_assoc, List.cons_append]

theorem drives_some (leg : Leg σ) (more : List (List Tracker.Event × Leg σ)) (b : Batch)
    (c : Client) (last : Ride σ) : driveOn leg more b c ≠ some ([], last) := by
  intro driven
  cases more with
  | nil =>
    obtain ⟨_, _, never⟩ := drives_last leg b c _ last driven
    cases never
  | cons turn more =>
    obtain ⟨_, _, _, _, _, never⟩ := drives_first leg turn.2 turn.1 more b c _ last driven
    cases never

structure Finishes (s s' : Course) (pauses : List (List Tracker.Event))
    (early : List Batch.CycleResult) (last : Batch.CycleResult) : Prop where
  reached : s.run (Move.paced pauses) = s'
  results : s'.results = s.results ++ (early ++ [last])
  length : early.length = pauses.length
  pending : ∀ lap ∈ early, lap.stillPending = true
  resolved : s'.batch.stage = .resolved
  last : last.stillPending = false

variable {s s' : Course} {leg : Leg σ} {b : Batch} {c : Client}
  {result : Except Overrun DriveReport} {ride : Ride σ} {early later : List Batch.CycleResult}
  {last final : Batch.CycleResult}

structure Leg.Takes (leg : Leg σ) (s : Course) (b : Batch) (c : Client)
    (result : Except Overrun DriveReport) (ride : Ride σ) (early : List Batch.CycleResult)
    (last : Batch.CycleResult) : Prop where
  length : early.length = (leg.pauses b c).length
  ran : ∃ left, Ran left 0 s (s.run (Move.paced (leg.pauses b c))) (result, ride) early last

theorem leg_takes (leg : Leg σ) (s : Course) (b : Batch) (c : Client)
    (result : Except Overrun DriveReport) (ride : Ride σ) (batch : s.batch = b)
    (client : s.client = c) (unresolved : s.batch.stage ≠ .resolved)
    (driven : leg.drive b c = some (result, ride)) :
    ∃ early last, leg.Takes s b c result ride early last := by
  obtain ⟨left, bounded, paused, _⟩ :=
    Ride.drive_paused leg.scheduler leg.limit ⟨b, c, leg.clock⟩ _ driven
  obtain ⟨early, last, length, ran⟩ :=
    drive_ran leg.scheduler left 0 ⟨b, c, leg.clock⟩ s ⟨batch, client⟩ unresolved
  rw [← paused, bounded] at ran
  rw [← paused] at length
  exact ⟨early, last, length, left, ran⟩

theorem leg_ends (takes : leg.Takes s b c result ride early last) (report : DriveReport)
    (ended : result = .ok report) :
    last.stillPending = false ∧ report.success = last.success ∧ report.failure = last.failure := by
  obtain ⟨left, ran⟩ := takes.ran
  cases waits : last.stillPending with
  | true =>
    have out := (ran.overran waits).2
    rw [ended] at out
    cases out
  | false =>
    have done := ran.ended waits
    rw [ended] at done
    cases done
    exact ⟨rfl, rfl, rfl⟩

theorem leg_waits (takes : leg.Takes s b c result ride early last) (o : Overrun)
    (out : result = .error o) : last.stillPending = true := by
  obtain ⟨left, ran⟩ := takes.ran
  rw [← Bool.not_eq_false]
  intro finished
  have ended := ran.ended finished
  rw [out] at ended
  cases ended

theorem leg_finishes (takes : leg.Takes s b c result ride early last)
    (finished : last.stillPending = false) :
    Finishes s (s.run (Move.paced (leg.pauses b c))) (leg.pauses b c) early last := by
  obtain ⟨left, ran⟩ := takes.ran
  exact ⟨rfl, ran.results, takes.length, ran.pending, ran.resolved.mpr finished, finished⟩

theorem leg_resumes (takes : leg.Takes s b c result ride early last)
    (waits : last.stillPending = true) (heard : List Tracker.Event)
    (pauses : List (List Tracker.Event))
    (finishes : Finishes ((s.run (Move.paced (leg.pauses b c))).run (heard.map .event)) s' pauses
      later final) :
    Finishes s s' (leg.pauses b c ++ heard :: pauses) (early ++ last :: later) final := by
  obtain ⟨left, ran⟩ := takes.ran
  refine ⟨?_, ?_, ?_, ?_, finishes.resolved, finishes.last⟩
  · rw [paced_append, Course.run_append, Course.run_append]
    exact finishes.reached
  · rw [finishes.results, events_results, ran.results]
    simp
  · rw [List.length_append, List.length_append, List.length_cons, List.length_cons,
      finishes.length, takes.length]
  · intro lap member
    rcases List.mem_append.mp member with earlier | here
    · exact ran.pending lap earlier
    · rcases List.mem_cons.mp here with rfl | afterwards
      · exact waits
      · exact finishes.pending lap afterwards

theorem leg_onward (takes : leg.Takes s b c result ride early last)
    (waits : last.stillPending = true) (heard : List Tracker.Event) :
    ((s.run (Move.paced (leg.pauses b c))).run (heard.map .event)).batch = ride.batch.hear heard ∧
      ((s.run (Move.paced (leg.pauses b c))).run (heard.map .event)).client = ride.client ∧
      ((s.run (Move.paced (leg.pauses b c))).run (heard.map .event)).batch.stage ≠ .resolved := by
  obtain ⟨left, ran⟩ := takes.ran
  have along := along_events _ heard _ leg.clock ran.along
  refine ⟨along.batch, along.client, ?_⟩
  rw [(run_events _ heard).1]
  change (s.run (Move.paced (leg.pauses b c))).batch.stage ≠ .resolved
  rw [ne_eq, ran.resolved, waits]
  exact Bool.noConfusion

theorem legs_finish (leg : Leg σ) (more : List (List Tracker.Event × Leg σ)) (s : Course)
    (b : Batch) (c : Client) (batch : s.batch = b) (client : s.client = c)
    (unresolved : s.batch.stage ≠ .resolved) (errors : List Overrun) (report : DriveReport)
    (after : Ride σ)
    (ended : driveOn leg more b c = some (errors.map .error ++ [.ok report], after)) :
    ∃ s' early last, Finishes s s' (pausesOn leg more b c) early last ∧ Along s' after ∧
      report.success = last.success ∧ report.failure = last.failure := by
  induction more generalizing leg s b c errors with
  | nil =>
    obtain ⟨result, driven, only⟩ := drives_last leg b c _ after ended
    obtain ⟨early, last, takes⟩ := leg_takes leg s b c _ _ batch client unresolved driven
    have finishing : result = .ok report := by
      cases errors with
      | nil => exact (List.cons.inj only).1.symm
      | cons o errors => simp at only
    obtain ⟨finished, same⟩ := leg_ends takes report finishing
    obtain ⟨left, ran⟩ := takes.ran
    exact ⟨_, early, last, leg_finishes takes finished, ran.along, same⟩
  | cons turn more ih =>
    obtain ⟨heard, next⟩ := turn
    obtain ⟨result, ride, others, driven, rest, all⟩ :=
      drives_first leg next heard more b c _ after ended
    obtain ⟨early, last, takes⟩ := leg_takes leg s b c _ _ batch client unresolved driven
    cases errors with
    | nil =>
      obtain ⟨_, rfl⟩ := List.cons.inj all
      exact absurd rest (drives_some next more _ _ _)
    | cons o errors =>
      obtain ⟨out, rfl⟩ := List.cons.inj all
      have waits := leg_waits takes o out.symm
      obtain ⟨batch', client', still⟩ := leg_onward takes waits heard
      obtain ⟨s', later, final, finishes, along', same⟩ :=
        ih next _ _ _ batch' client' still errors rest
      refine ⟨s', early ++ last :: later, final, ?_, along', same⟩
      rw [pauses_first leg (heard, next) more b c result ride driven]
      exact leg_resumes takes waits heard _ finishes

def Scheduler.replay : Scheduler (List (List Tracker.Event)) where
  turn pauses _ _ := (pauses.headD [], pauses.tail)

theorem run_results (s : Course) (moves : List Move) :
    ∃ more, (s.run moves).results = s.results ++ more := by
  induction moves generalizing s with
  | nil => exact ⟨[], (List.append_nil _).symm⟩
  | cons m moves ih =>
    obtain ⟨more, later⟩ := ih (s.step m)
    cases m with
    | event e => exact ⟨more, later⟩
    | cycle =>
      exact ⟨(s.batch.cycle s.client).1 :: more, later.trans (List.append_assoc _ [_] more)⟩

theorem finishes_more (heard : List Tracker.Event) (pauses : List (List Tracker.Event))
    (finishes : Finishes s s' (heard :: pauses) early last) :
    (s.batch.cycle s.client).1.stillPending = true ∧
      ∃ later, Finishes ((s.step .cycle).run (heard.map .event)) s' pauses later last := by
  have reached := finishes.reached
  rw [paced_pause] at reached
  obtain ⟨more, onward⟩ := run_results ((s.step .cycle).run (heard.map .event)) (Move.paced pauses)
  rw [reached, events_results, finishes.results, Course.step, List.append_assoc] at onward
  have laps := List.append_cancel_left onward
  cases early with
  | nil => exact absurd finishes.length (Nat.succ_ne_zero _).symm
  | cons lap later =>
    obtain ⟨rfl, others⟩ := List.cons.inj laps
    refine ⟨finishes.pending _ List.mem_cons_self, later, reached, ?_,
      Nat.succ.inj finishes.length, ?_, finishes.resolved, finishes.last⟩
    · rw [events_results, finishes.results]
      exact (List.append_assoc _ [_] _).symm
    · intro lap member
      exact finishes.pending lap (List.mem_cons_of_mem _ member)

theorem replay_drives (pauses : List (List Tracker.Event)) (left done : Nat)
    (ride : Ride (List (List Tracker.Event))) (along : Along s ride) (clock : ride.clock = pauses)
    (finishes : Finishes s s' pauses early last) (room : pauses.length ≤ left) :
    (Ride.driveFrom .replay left done ride).1 =
        .ok { cycles := done + (pauses.length + 1), success := last.success,
              failure := last.failure } ∧
      ride.pausesFrom .replay left = pauses := by
  induction pauses generalizing left done ride s early with
  | nil =>
    have none_early := List.eq_nil_of_length_eq_zero finishes.length
    have results := finishes.results
    rw [← finishes.reached, none_early] at results
    have lap : ride.cycle.1 = last := by
      rw [Ride.cycle, ← along.batch, ← along.client]
      exact (List.cons.inj (List.append_cancel_left results)).1
    have ended : ride.cycle.1.stillPending = false := by
      rw [lap]
      exact finishes.last
    rw [drive_last .replay left done ride ended, ride.pauses_last .replay left ended, lap]
    exact ⟨rfl, rfl⟩
  | cons heard pauses ih =>
    obtain ⟨waits, later, onward⟩ := finishes_more heard pauses finishes
    rw [along.batch, along.client] at waits
    have pending : ride.cycle.1.stillPending = true := waits
    have pause : ride.pause .replay = heard := by
      change ride.clock.headD [] = heard
      rw [clock]
      rfl
    have rest : (ride.lap .replay).clock = pauses := by
      change ride.clock.tail = pauses
      rw [clock]
      rfl
    have lap := along_lap .replay s ride along
    rw [pause] at lap
    cases left with
    | zero => exact absurd room (Nat.not_succ_le_zero _)
    | succ left =>
      obtain ⟨drive, paused⟩ := ih left (done + 1) (ride.lap .replay) lap rest onward
        (Nat.le_of_succ_le_succ room)
      rw [drive_more .replay left done ride pending, ride.pauses_more .replay left pending, pause,
        paused]
      refine ⟨drive.trans ?_, rfl⟩
      rw [List.length_cons, Nat.add_right_comm, Nat.add_assoc]

-- Of a course and a later point of it: the calls up to then are for the records that had been
-- taken, the calls made since are for the others.
structure Parted (p : Publisher) (input : Input) (s s' : Course) (made : List Call) : Prop where
  handed : s'.handed = s.handed ++ made
  earlier : List.Forall₂ (fun r (call : Call) => Carries p input.attributes r call.message)
    (((p.read input.content).1.take s.batch.submittedCount).filter p.format.writes) s.handed
  later : List.Forall₂ (fun r (call : Call) => Carries p input.attributes r call.message)
    (((p.read input.content).1.drop s.batch.submittedCount).filter p.format.writes) made

theorem run_later (s : Course) (moves : List Move) :
    s.client.Later (s.run moves).client ∧ (s.run moves).first = s.first := by
  induction moves generalizing s with
  | nil => exact ⟨s.client.later_same, rfl⟩
  | cons m moves ih =>
    obtain ⟨later, first⟩ := ih (s.step m)
    cases m with
    | event e => exact ⟨later, first⟩
    | cycle => exact ⟨(s.batch.cycle_later s.client).trans later, first⟩

theorem run_parted (p : Publisher) (input : Input) (client : Client) (moves more : List Move)
    (resolved : ((Course.start p input client).run (moves ++ more)).batch.stage = .resolved) :
    ∃ made, Parted p input ((Course.start p input client).run moves)
      ((Course.start p input client).run (moves ++ more)) made := by
  rcases read_cases p input.content with ⟨fault, read⟩ | ⟨records, parsed, nonempty⟩
  · have barren := barren_run input _ moves (barren_start p input client fault read)
    have barren' := barren_run input _ (moves ++ more) (barren_start p input client fault read)
    refine ⟨[], ?_, ?_, ?_⟩
    · rw [Course.handed, Course.handed, barren.silent, barren'.silent]
      rfl
    · rw [read, Course.handed, barren.silent]
      simp
    · rw [read]
      simp
  · obtain ⟨roster, rostered⟩ := rostered_run input client moves parsed nonempty
    obtain ⟨roster', rostered'⟩ := rostered_run input client (moves ++ more) parsed nonempty
    obtain ⟨since, first⟩ := run_later ((Course.start p input client).run moves) more
    have earlier := handed_carry input _ rostered
    have all := resolved_carry input _ rostered' resolved
    have calls := since.calls _ rostered.mirrors.told.seen
    have handed : ((Course.start p input client).run (moves ++ more)).handed =
        ((Course.start p input client).run moves).handed ++
          (((Course.start p input client).run (moves ++ more)).client.callsFrom
            ((Course.start p input client).run moves).client.calls.size).filter Call.isHanded := by
      rw [Course.run_append, Course.handed, Course.calls, first, calls, List.filter_append]
      rfl
    rw [handed,
      ← List.take_append_drop ((Course.start p input client).run moves).batch.submittedCount
      records, List.filter_append] at all
    have taken : records.take ((Course.start p input client).run moves).batch.submittedCount =
        roster.map Entry.record := by
      rw [rostered_taken input _ rostered, ← rostered.mirrors.told.taken, List.take_left' (by simp)]
    rw [taken] at all
    have later := List.forall₂_drop_append _ _ _ all
    rw [← earlier.length_eq, List.drop_left] at later
    refine ⟨_, handed, ?_, ?_⟩
    · rw [read_parsed p input.content records parsed nonempty, taken]
      exact earlier
    · rw [read_parsed p input.content records parsed nonempty]
      exact later

theorem pending_results (s : Course) (moves : List Move)
    (silent : ∀ lap ∈ s.results, lap.stillPending = true →
      lap.success = none ∧ lap.failure = none) :
    ∀ lap ∈ (s.run moves).results, lap.stillPending = true →
      lap.success = none ∧ lap.failure = none := by
  induction moves generalizing s with
  | nil => exact silent
  | cons m moves ih =>
    refine ih (s.step m) ?_
    cases m with
    | event e => exact silent
    | cycle =>
      intro lap member pending
      rcases List.mem_append.mp member with earlier | now
      · exact silent lap earlier pending
      · rw [List.mem_singleton.mp now] at pending ⊢
        exact pending_cycle s.batch s.client pending

theorem finishes_emit (p : Publisher) (input : Input) (client : Client)
    (pauses : List (List Tracker.Event))
    (finishes : Finishes (Course.start p input client) s' pauses early last) :
    s'.emitted = (last.success.toList, last.failure.toList) := by
  have silent := pending_results (Course.start p input client) (Move.paced pauses) (by
    intro lap member
    cases member)
  rw [finishes.reached, finishes.results] at silent
  have before (f : Batch.CycleResult → Option Artifact)
      (none_there : ∀ lap ∈ early, f lap = none) :
      (early ++ [last]).filterMap f = (f last).toList := by
    rw [List.filterMap_append, List.filterMap_eq_nil_iff.mpr none_there, List.nil_append]
    cases brought : f last <;> simp [brought]
  have early_silent : ∀ lap ∈ early, lap.success = none ∧ lap.failure = none := by
    intro lap member
    exact silent lap (List.mem_append_right _ (List.mem_append_left _ member))
      (finishes.pending lap member)
  rw [Course.emitted, finishes.results]
  exact congrArg₂ Prod.mk (before _ fun lap member => (early_silent lap member).1)
    (before _ fun lap member => (early_silent lap member).2)

-- Drives of one batch, of which the last has ended it, against the course that they are.
structure Resumed (p : Publisher) (input : Input) (client : Client) (leg : Leg σ)
    (more : List (List Tracker.Event × Leg σ)) (pauses : List (List Tracker.Event)) (s : Course)
    (report : DriveReport) (after : Ride σ) : Prop where
  reached : (Course.start p input client).run (Move.paced pauses) = s
  along : Along s after
  resolved : s.batch.stage = .resolved
  emitted : s.emitted = (report.success.toList, report.failure.toList)
  -- At each cut, what the drives before it have handed over the drives after it do not.
  apart : ∀ before turn after, more = before ++ turn :: after → ∃ made, Parted p input
    ((Course.start p input client).run
      (Move.paced (pausesOn leg before (p.openBatch input) client))) s made
  -- One drive without a limit takes the same course.
  single : ∃ after', Ride.drive .replay none ⟨p.openBatch input, client, pauses⟩ =
      some (.ok { report with cycles := pauses.length + 1 }, after') ∧
    Ride.pauses .replay none ⟨p.openBatch input, client, pauses⟩ = pauses
  agrees : ∀ (τ : Type) (other : Leg τ) (client' : Client) (report' : DriveReport)
    (after' : Ride τ), other.drive (p.openBatch input) client' = some (.ok report', after') →
    SameArrivals s ((Course.start p input client').run
      (Move.paced (other.pauses (p.openBatch input) client'))) →
    report'.success = report.success ∧ report'.failure = report.failure

theorem drives_resumed (p : Publisher) (input : Input) (client : Client) (leg : Leg σ)
    (more : List (List Tracker.Event × Leg σ)) (errors : List Overrun) (report : DriveReport)
    (after : Ride σ) (ended : driveOn leg more (p.openBatch input) client =
      some (errors.map .error ++ [.ok report], after)) :
    ∃ s, Resumed p input client leg more (pausesOn leg more (p.openBatch input) client) s report
      after := by
  obtain ⟨s, early, last, finishes, along, success, failure⟩ := legs_finish leg more
    (Course.start p input client) _ _ rfl rfl
    (by simp [Course.start, Publisher.openBatch, Batch.new])
    errors report after ended
  have emitted := finishes_emit p input client _ finishes
  rw [← success, ← failure] at emitted
  refine ⟨s, finishes.reached, along, finishes.resolved, emitted, ?_, ?_, ?_⟩
  · rintro before turn others rfl
    obtain ⟨rest, cut⟩ := pauses_cut leg before others turn
      (Course.start p input client).batch (Course.start p input client).client _ after ended
    have reached := finishes.reached
    rw [cut, paced_append] at reached
    have resolved := finishes.resolved
    rw [← reached] at resolved ⊢
    exact run_parted p input client _ _ resolved
  · obtain ⟨drive, paused⟩ := replay_drives _ _ 0
      ⟨p.openBatch input, client, pausesOn leg more (p.openBatch input) client⟩
      ⟨rfl, rfl⟩ rfl finishes
      (Nat.le_refl _)
    rw [← success, ← failure, Nat.zero_add] at drive
    have whole := bounded_end .replay _ 0 _ _ _ (Prod.ext drive rfl)
    refine ⟨_, by rw [Ride.drive, whole]; rfl, ?_⟩
    rw [Ride.pauses, whole]
    exact paused
  · intro τ other client' report' after' ended' agree
    obtain ⟨t, early', last', finishes', _, success', failure'⟩ := legs_finish other []
      (Course.start p input client') _ _ rfl rfl
      (by simp [Course.start, Publisher.openBatch, Batch.new]) [] report' after'
      (by rw [driveOn]; exact congrArg (· >>= fun out => some ([out.1], out.2)) ended')
    have emitted' := finishes_emit p input client' _ finishes'
    have same := courses_agree p p rfl rfl rfl input client client' _ _
      (finishes.reached ▸ finishes.resolved) (finishes'.reached ▸ finishes'.resolved)
      (finishes.reached.symm ▸ agree)
    rw [finishes.reached, finishes'.reached, emitted, emitted', ← success', ← failure'] at same
    obtain ⟨successes, failures⟩ := Prod.mk.inj same
    exact ⟨by simpa using congrArg List.head? successes.symm,
      by simpa using congrArg List.head? failures.symm⟩

/-- However drives cut the run of a batch, they send and bring what one drive does. -/
theorem drives_resume (p : Publisher) (input : Input) (client : Client) :
    (∀ (moves : List Move) (σ : Type) (scheduler : Scheduler σ) (clock : σ)
      (maxCycles : Option Nat) (s : Course), (Course.start p input client).run moves = s →
      s.batch.stage ≠ .resolved →
      (Ride.drive scheduler maxCycles ⟨s.batch, s.client, clock⟩ = none ↔ maxCycles = none ∧
        ∀ limit, ∃ o after,
          Ride.drive scheduler (some limit) ⟨s.batch, s.client, clock⟩ = some (.error o, after)) ∧
      ∀ out, Ride.drive scheduler maxCycles ⟨s.batch, s.client, clock⟩ = some out →
        ∃ laps, Timed maxCycles s
          (s.run (Move.paced (Ride.pauses scheduler maxCycles ⟨s.batch, s.client, clock⟩)))
          out laps) ∧
    ∀ (σ : Type) (leg : Leg σ) (more : List (List Tracker.Event × Leg σ)) (errors : List Overrun)
      (report : DriveReport) (after : Ride σ), driveOn leg more (p.openBatch input) client =
        some (errors.map .error ++ [.ok report], after) →
      ∃ s, Resumed p input client leg more (pausesOn leg more (p.openBatch input) client) s report
        after :=
  ⟨fun moves _ scheduler clock maxCycles s reached unresolved =>
      ⟨drive_endless scheduler maxCycles _,
        drive_timed p input client moves scheduler clock maxCycles s reached unresolved⟩,
    fun _ leg more errors report after ended =>
      drives_resumed p input client leg more errors report after ended⟩

def overrun? : Except Overrun DriveReport → Option Overrun
  | .error o => some o
  | .ok _ => none

theorem results_ended (results : List (Except Overrun DriveReport)) (errors : List Overrun)
    (shape : results.map overrun? = errors.map some ++ [none]) :
    ∃ report, results = errors.map .error ++ [.ok report] := by
  induction errors generalizing results with
  | nil =>
    obtain ⟨r, rfl, ended⟩ := List.map_eq_singleton_iff.mp shape
    cases r with
    | error o => cases ended
    | ok report => exact ⟨report, rfl⟩
  | cons o errors ih =>
    obtain ⟨r, rest, rfl, out, others⟩ := List.map_eq_cons_iff.mp shape
    obtain ⟨report, rfl⟩ := ih rest others
    cases r with
    | error _ =>
      cases out
      exact ⟨report, rfl⟩
    | ok _ => cases out

theorem overruns_ended (driven : Option (List (Except Overrun DriveReport) × Ride σ))
    (errors : List Overrun)
    (shape : driven.map (fun out => out.1.map overrun?) = some (errors.map some ++ [none])) :
    ∃ report after, driven = some (errors.map .error ++ [.ok report], after) := by
  obtain ⟨⟨results, after⟩, rfl, ended⟩ := Option.map_eq_some_iff.mp shape
  obtain ⟨report, rfl⟩ := results_ended results errors ended
  exact ⟨report, after, rfl⟩

namespace Sample

def once : Leg Unit :=
  { scheduler := { turn := fun _ _ _ => ([], ()) }, clock := (), limit := some 1 }

def cuts : List (List Tracker.Event × Leg Unit) :=
  [([.resolve 0 .crashed, .run 0], once), ([.run 2], once)]

def timeouts : List Overrun :=
  [{ inFlight := 1, unsubmitted := 1, cycles := 1 },
    { inFlight := 1, unsubmitted := 0, cycles := 1 }]

end Sample

theorem sample_resumes :
    Sample.course.batch.stage ≠ .resolved ∧
      (∃ out laps, Ride.drive Sample.once.scheduler (some 1)
          ⟨Sample.course.batch, Sample.course.client, ()⟩ = some out ∧
        Timed (some 1) Sample.course
          (Sample.course.run (Move.paced (Ride.pauses Sample.once.scheduler (some 1)
            ⟨Sample.course.batch, Sample.course.client, ()⟩))) out laps) ∧
      ∃ report after s,
        driveOn Sample.once Sample.cuts (Sample.publisher.openBatch Sample.input)
          Sample.client = some (Sample.timeouts.map .error ++ [.ok report], after) ∧
        Resumed Sample.publisher Sample.input Sample.client Sample.once Sample.cuts
          (pausesOn Sample.once Sample.cuts (Sample.publisher.openBatch Sample.input)
            Sample.client) s report after := by
  obtain ⟨timed, resumed⟩ := drives_resume Sample.publisher Sample.input Sample.client
  have pending : Sample.course.batch.stage ≠ .resolved := by decide
  obtain ⟨report, after, ended⟩ := overruns_ended (driveOn Sample.once Sample.cuts
    (Sample.publisher.openBatch Sample.input) Sample.client) Sample.timeouts (by decide +kernel)
  obtain ⟨s, whole⟩ := resumed Unit Sample.once Sample.cuts Sample.timeouts report after ended
  obtain ⟨_, ran⟩ :=
    timed Sample.moves Unit Sample.once.scheduler () (some 1) Sample.course rfl pending
  obtain ⟨laps, timely⟩ := ran _ rfl
  exact ⟨pending, ⟨_, laps, rfl, timely⟩, report, after, s, ended, whole⟩

end Courier
