import Courier.Proofs.Pauses
import Courier.Proofs.Progress

set_option autoImplicit false

/- Prompt clients: every message is refused or acknowledged at once. If all tasks run between two
   cycles, what a cycle has handed over is collected by the next one, so any two cycles in a row
   fill the slots once, and a drive ends within twice the cycles that the messages need. -/
namespace Courier

-- A client that has room for every message, and refuses it or has its acknowledgment at once.
def Client.IsPrompt (c : Client) : Prop :=
  ∀ n m, (∃ report, c.answer n m = .refused report) ∨
    ∃ signal, c.answer n m = .taken (some signal)

namespace Tracker

theorem due_iff (t : Tracker) (call : Nat) : t.isDue call = true ↔
    ∃ ordinal signal, t.awaited[call]? = some ⟨ordinal, some signal⟩ := by
  rw [isDue]
  rcases t.awaited[call]? with _ | ⟨ordinal, _ | signal⟩ <;> simp

theorem run_due (t : Tracker) (n call : Nat) :
    (t.apply (.run n)).isDue call = true ↔ t.isDue call = true ∧ call ≠ n := by
  rcases t.apply_run_cases n with ⟨ordinal, signal, _, next⟩ | ⟨idle, next⟩
  · rw [next, due_iff, due_iff]
    by_cases same : call = n
    · simp [finish, same]
    · simp [finish, Std.ExtTreeMap.getElem?_erase, same, Ne.symm same]
  · rw [next, due_iff, iff_self_and]
    rintro ⟨ordinal, signal, found⟩ rfl
    exact idle ordinal signal found

theorem runs_due (t : Tracker) (calls : List Nat) (call : Nat) :
    (t.applyAll (calls.map .run)).isDue call = true ↔ t.isDue call = true ∧ call ∉ calls := by
  induction calls generalizing t with
  | nil => simp [applyAll]
  | cons n calls ih =>
    refine (ih (t.apply (.run n))).trans ?_
    rw [run_due, List.mem_cons, not_or, and_assoc]

def Heard (t : Tracker) : Prop :=
  ∀ (n : Nat) (a : Awaited), t.awaited[n]? = some a → a.signal.isSome

theorem heard_apply (t : Tracker) (e : Event) (heard : t.Heard) : (t.apply e).Heard := by
  cases e with
  | resolve number signal =>
    rcases t.apply_resolve_cases number signal with ⟨ordinal, found, _⟩ | ⟨_, next⟩
    · have ended := heard number _ found
      cases ended
    · rw [next]
      exact heard
  | run number =>
    rcases t.apply_run_cases number with ⟨ordinal, signal, _, next⟩ | ⟨_, next⟩
    · rw [next]
      intro n a found
      rw [finish, Std.ExtTreeMap.getElem?_erase] at found
      split at found
      · cases found
      · exact heard n a found
    · rw [next]
      exact heard

theorem heard_events (t : Tracker) (events : List Event) (heard : t.Heard) :
    (t.applyAll events).Heard := by
  induction events generalizing t with
  | nil => exact heard
  | cons e events ih => exact ih (t.apply e) (t.heard_apply e heard)

theorem events_frame (t : Tracker) (events : List Event) :
    (t.applyAll events).ceiling = t.ceiling ∧ (t.applyAll events).inFlight = t.inFlight := by
  induction events generalizing t with
  | nil => exact ⟨rfl, rfl⟩
  | cons e events ih =>
    obtain ⟨ceiling, held⟩ := ih (t.apply e)
    obtain ⟨_, _, _, limit, kept⟩ := t.apply_frame e
    exact ⟨ceiling.trans limit, held.trans kept⟩

theorem heard_settled (t : Tracker) (heard : t.Heard) (settled : ∀ call, t.isDue call = false) :
    t.awaited = ∅ := by
  apply Std.ExtTreeMap.ext_getElem?
  intro n
  rw [Std.ExtTreeMap.getElem?_empty]
  cases found : t.awaited[n]? with
  | none => rfl
  | some a =>
    obtain ⟨signal, ended⟩ := Option.isSome_iff_exists.mp (heard n a found)
    have due := (t.due_iff n).mpr ⟨a.ordinal, signal, by rw [found, ← ended]⟩
    rw [settled n] at due
    cases due

theorem hold_heard (t : Tracker) (r : Record) (payload : Bytes) (call : Nat) (signal : Signal)
    (heard : t.Heard) : ((t.hold r payload).await call r.ordinal (some signal)).Heard := by
  intro n a found
  rw [await, Std.ExtTreeMap.getElem?_insert] at found
  split at found
  · cases found
    rfl
  · exact heard n a found

theorem submit_prompt (t : Tracker) (r : Record) (c : Client) (prompt : c.IsPrompt)
    (heard : t.Heard) : (t.submit r c).2.2.IsPrompt ∧ (t.submit r c).2.1.Heard := by
  rcases t.submit_cases r c with ⟨_, next⟩ | ⟨_, fault, _, next⟩ |
    ⟨_, payload, _, ⟨note, _, next⟩ | ⟨report, _, next⟩ | ⟨signal, taken, next⟩⟩
  · rw [next]
    exact ⟨prompt, heard⟩
  · rw [next]
    exact ⟨prompt, heard⟩
  · rw [next]
    exact ⟨prompt, heard⟩
  · rw [next]
    exact ⟨prompt, heard⟩
  · rw [next]
    rcases prompt c.calls.size (t.message r payload) with ⟨report, refused⟩ | ⟨early, known⟩
    · rw [taken] at refused
      cases refused
    · rw [taken] at known
      cases known
      exact ⟨prompt, t.hold_heard r payload _ early heard⟩

end Tracker

namespace Batch

theorem hand_over_writes (rest : List Record) (a : Admission) :
    (handOver rest a).1.countP a.tracker.format.writes + (handOver rest a).2.submitted =
      rest.countP a.tracker.format.writes + a.submitted := by
  refine (hand_over_ind (fun left now => now.tracker.format = a.tracker.format ∧
    left.countP a.tracker.format.writes + now.submitted =
      rest.countP a.tracker.format.writes + a.submitted) ?_ ?_ ?_ rest a ⟨rfl, rfl⟩).2
  · intro r left now t c accepted ⟨format, counted⟩
    obtain ⟨written, same, _, _⟩ := now.tracker.submit_accepted r now.client t c accepted
    rw [format] at written same
    rw [List.countP_cons_of_pos written] at counted
    exact ⟨same, by dsimp only; omega⟩
  · intro r left now fault rejected ⟨format, counted⟩
    have unwritten := now.tracker.submit_rejected r now.client fault rejected
    rw [format] at unwritten
    rw [List.countP_cons_of_neg (by simp [unwritten])] at counted
    exact ⟨format, counted⟩
  · intro r left now c _ kept
    exact kept

theorem hand_over_awaits (rest : List Record) (a : Admission) :
    (handOver rest a).2.tracker.awaited.size + a.submitted ≤
      a.tracker.awaited.size + (handOver rest a).2.submitted := by
  refine hand_over_ind (fun _ now => now.tracker.awaited.size + a.submitted ≤
    a.tracker.awaited.size + now.submitted) ?_ ?_ ?_ rest a (Nat.le_refl _)
  · intro r left now t c accepted held
    obtain ⟨_, _, _, one⟩ := now.tracker.submit_accepted r now.client t c accepted
    dsimp only
    omega
  · intro r left now fault _ held
    exact held
  · intro r left now c _ held
    exact held

theorem hand_over_prompt (rest : List Record) (a : Admission)
    (prompt : (handOver rest a).2.client.IsPrompt) :
    (handOver rest a).1 = [] ∨ (handOver rest a).2.tracker.hasCapacity = false := by
  rcases hand_over_greedy rest a with
    all | full | ⟨r, left, payload, c, note, _, _, _, answer, made⟩
  · exact .inl all
  · exact .inr full
  · rw [made] at prompt
    rcases prompt c.calls.size _ with ⟨report, refused⟩ | ⟨signal, taken⟩
    · exact absurd (answer.symm.trans refused) (by simp)
    · exact absurd (answer.symm.trans taken) (by simp)

end Batch

variable {p : Publisher} {records : List Record} {roster : List Entry} {σ : Type}

structure Fills (f : Format) (b b' : Batch) (submitted : Nat) : Prop where
  taken : b.unsubmitted = [] → b'.unsubmitted = []
  held : b'.inFlight ≤ submitted
  left : b'.unsubmitted.countP f.writes + submitted = b.unsubmitted.countP f.writes
  filled : b'.unsubmitted = [] ∨ b.tracker.ceiling ≤ b.inFlight + submitted

theorem prompt_cycle (input : Input) (s : Course)
    (rostered : CourseRostered p input records s roster) (prompt : s.client.IsPrompt)
    (idle : s.batch.tracker.awaited = ∅)
    (pending : s.batch.stage ≠ .resolved) :
    (s.step .cycle).client.IsPrompt ∧ (s.step .cycle).batch.tracker.Heard ∧
      Fills p.format s.batch (s.step .cycle).batch (s.batch.cycle s.client).1.submitted := by
  have cycled := s.batch.cycle_readable s.client pending rostered.readable
  obtain ⟨after, result⟩ := s.batch.advance_spec s.client
  obtain ⟨fresh, rostered'⟩ := rostered_cycle input s rostered
  have heard : s.batch.tracker.Heard := by
    intro n a found
    rw [idle] at found
    cases found
  obtain ⟨prompt', heard', limit⟩ := Batch.hand_over_keeps
    (fun t c => c.IsPrompt ∧ t.Heard ∧ t.ceiling = s.batch.tracker.ceiling)
    (fun t r c ⟨prompt, heard, limit⟩ =>
      ⟨(t.submit_prompt r c prompt heard).1, (t.submit_prompt r c prompt heard).2,
        (t.submit_slots r c).1.trans limit⟩)
    s.batch.unsubmitted (s.batch.admission s.client) ⟨prompt, heard, rfl⟩
  have waits := (mirrors_waits rostered'.mirrors).length_eq
  have awaits := Batch.hand_over_awaits s.batch.unsubmitted (s.batch.admission s.client)
  have writes := Batch.hand_over_writes s.batch.unsubmitted (s.batch.admission s.client)
  obtain ⟨held, _⟩ := hand_over_balance s.batch.unsubmitted (s.batch.admission s.client)
    rostered.mirrors
  change _ + 0 = s.batch.tracker.inFlight.size + _ at held
  change _ + 0 ≤ s.batch.tracker.awaited.size + _ at awaits
  change _ = List.countP s.batch.tracker.format.writes _ + 0 at writes
  rw [idle, Std.ExtTreeMap.size_empty] at awaits
  simp only [Course.step, cycled, after, result] at waits ⊢
  refine ⟨prompt', heard', ?_, ?_, ?_, ?_⟩
  · intro none_left
    rw [none_left]
    rfl
  · simp only [List.length_append, List.length_map, Std.ExtTreeMap.length_toList,
      Std.ExtTreeMap.length_keys, Tracker.poll] at waits
    simp only [Batch.inFlight, Tracker.poll]
    simp only [List.length_nil] at waits
    omega
  · rw [← rostered.mirrors.format]
    exact writes
  · rcases Batch.hand_over_prompt s.batch.unsubmitted (s.batch.admission s.client) prompt' with
      all | full
    · exact .inl all
    · rw [Tracker.hasCapacity, limit, decide_eq_false_iff_not] at full
      right
      rw [Batch.inFlight]
      omega

theorem fills_twice (f : Format) (b b' b'' : Batch) (submitted more : Nat)
    (fills : Fills f b b' submitted) (refills : Fills f b' b'' more)
    (pending : ¬ (b''.unsubmitted = [] ∧ b''.inFlight = 0)) :
    b''.unsubmitted.countP f.writes + b''.inFlight + b.tracker.ceiling ≤
      b.unsubmitted.countP f.writes + b.inFlight := by
  have held := refills.held
  have left := fills.left
  have later := refills.left
  rcases fills.filled with all | full
  · rw [all, List.countP_nil] at later
    exact absurd ⟨refills.taken all, by omega⟩ pending
  · omega

structure Ready (p : Publisher) (input : Input) (records : List Record) (limit : Nat)
    (ride : Ride σ) : Prop where
  rostered : ∃ s roster, Along s ride ∧ CourseRostered p input records s roster
  prompt : ride.client.IsPrompt
  idle : ride.batch.tracker.awaited = ∅
  ceiling : ride.batch.tracker.ceiling = limit

namespace Ride

-- A ride in whose pauses all tasks run that can.
def Settles (s : Scheduler σ) (r : Ride σ) : Prop :=
  ∀ n call, ((lap s)^[n + 1] r).batch.tracker.isDue call = false

theorem settles_lap (s : Scheduler σ) (r : Ride σ) (settles : r.Settles s) :
    (r.lap s).Settles s := by
  intro n call
  have later := settles (n + 1) call
  rw [Function.iterate_succ_apply] at later
  exact later

theorem turns_settle (s : Scheduler σ)
    (turns : ∀ clock progress (t : Tracker) call,
      (t.applyAll (s.turn clock progress t).1).isDue call = false)
    (r : Ride σ) : r.Settles s := by
  intro n call
  rw [Function.iterate_succ_apply']
  exact turns _ _ _ call

theorem lap_pending (s : Scheduler σ) (r : Ride σ) :
    r.cycle.1.stillPending = true ↔ (r.lap s).batch.stage ≠ .resolved :=
  r.batch.cycle_pending r.client

theorem drive_from_ends (s : Scheduler σ) (left done n : Nat) (r : Ride σ) (within : n ≤ left)
    (last : ((lap s)^[n] r).cycle.1.stillPending = false) :
    ∃ report, (driveFrom s left done r).1 = .ok report ∧
      (driveFrom s left done r).2.batch.stage = .resolved ∧ report.cycles ≤ done + (n + 1) := by
  induction left generalizing done n r with
  | zero =>
    have first : n = 0 := Nat.le_zero.mp within
    subst first
    rw [drive_last s 0 done r last]
    exact ⟨_, rfl, last_cycle _ _ last, Nat.le_refl _⟩
  | succ left ih =>
    cases pending : r.cycle.1.stillPending with
    | false =>
      rw [drive_last s (left + 1) done r pending]
      exact ⟨_, rfl, last_cycle _ _ pending, by dsimp only; omega⟩
    | true =>
      cases n with
      | zero => exact absurd (pending.symm.trans last) (by simp)
      | succ n =>
        rw [Function.iterate_succ_apply] at last
        obtain ⟨report, ended, resolved, cycles⟩ := ih (done + 1) n (r.lap s) (by omega) last
        rw [drive_more s left done r pending]
        exact ⟨report, ended, resolved, by omega⟩

theorem drive_ends (s : Scheduler σ) (maxCycles : Option Nat) (n : Nat) (r : Ride σ)
    (enough : ∀ limit, maxCycles = some limit → n < limit)
    (last : ((lap s)^[n] r).cycle.1.stillPending = false) :
    ∃ report after, r.drive s maxCycles = some (.ok report, after) ∧
      after.batch.stage = .resolved ∧ report.cycles ≤ n + 1 := by
  cases maxCycles with
  | some limit =>
    have room := enough limit rfl
    obtain ⟨report, ended, resolved, cycles⟩ :=
      drive_from_ends s (limit - 1) 0 n r (by omega) last
    exact ⟨report, _, congrArg some (Prod.ext ended rfl), resolved, by omega⟩
  | none =>
    obtain ⟨report, ended, resolved, cycles⟩ := drive_from_ends s n 0 n r (Nat.le_refl n) last
    have whole := bounded_end s n 0 r _ report (Prod.ext ended rfl)
    exact ⟨report, _, by rw [drive, whole]; rfl, resolved, by omega⟩

end Ride

variable {input : Input} {limit : Nat} {ride : Ride σ}

theorem ready_stage (ready : Ready p input records limit ride) :
    ride.batch.stage = .resolved ↔
      ride.batch.unsubmitted = [] ∧ ride.batch.inFlight = 0 := by
  obtain ⟨s, roster, along, rostered⟩ := ready.rostered
  rw [← along.batch]
  exact rostered.stage

theorem ready_lap (scheduler : Scheduler σ) (ready : Ready p input records limit ride)
    (pending : ride.batch.stage ≠ .resolved)
    (settled : ∀ call, (ride.lap scheduler).batch.tracker.isDue call = false) :
    ∃ submitted, Ready p input records limit (ride.lap scheduler) ∧
      Fills p.format ride.batch (ride.lap scheduler).batch submitted := by
  obtain ⟨s, roster, along, rostered⟩ := ready.rostered
  obtain ⟨prompt, heard, fills⟩ := prompt_cycle input s rostered (along.client ▸ ready.prompt)
    (along.batch ▸ ready.idle) (along.batch ▸ pending)
  have cycled := along_cycle s ride along
  rw [cycled.batch, cycled.client] at *
  rw [along.batch, along.client] at fills
  obtain ⟨fresh, after⟩ := rostered_cycle input s rostered
  obtain ⟨roster', later⟩ := rostered_moves input _ ((ride.pause scheduler).map .event) fresh after
  obtain ⟨ceiling, held⟩ := Tracker.events_frame ride.cycle.2.batch.tracker (ride.pause scheduler)
  refine ⟨ride.cycle.1.submitted,
    ⟨⟨_, roster', along_lap scheduler s ride along, later⟩, prompt, ?_, ?_⟩, ?_⟩
  · exact Tracker.heard_settled _ (Tracker.heard_events _ (ride.pause scheduler) heard) settled
  · exact ceiling.trans ((ride.batch.cycle_ceiling ride.client).trans ready.ceiling)
  · refine ⟨fills.taken, ?_, ?_, fills.filled⟩
    · exact (congrArg Std.ExtTreeMap.size held).trans_le fills.held
    · exact fills.left

theorem ready_rest (scheduler : Scheduler σ) (ready : Ready p input records limit ride)
    (pending : ride.batch.stage ≠ .resolved) (positive : 0 < limit)
    (settled : ∀ call, (ride.lap scheduler).batch.tracker.isDue call = false)
    (rest : ride.batch.unsubmitted.countP p.format.writes + ride.batch.inFlight = 0) :
    ride.cycle.1.stillPending = false := by
  obtain ⟨submitted, next, fills⟩ := ready_lap scheduler ready pending settled
  have left := fills.left
  have held := fills.held
  rw [← Bool.not_eq_true, ride.lap_pending scheduler, not_not, ready_stage next]
  rcases fills.filled with all | full
  · exact ⟨all, by omega⟩
  · rw [ready.ceiling] at full
    omega

theorem ready_work (ready : Ready p input records limit ride)
    (pending : ride.batch.stage ≠ .resolved) (written : ∀ r ∈ records, p.format.writes r = true) :
    ride.batch.unsubmitted.countP p.format.writes + ride.batch.inFlight ≠ 0 := by
  intro nothing
  obtain ⟨none_left, idle⟩ := Nat.add_eq_zero_iff.mp nothing
  obtain ⟨s, roster, along, rostered⟩ := ready.rostered
  refine pending ((ready_stage ready).mpr ⟨?_, idle⟩)
  have all : ride.batch.unsubmitted.countP p.format.writes = ride.batch.unsubmitted.length := by
    rw [List.countP_eq_length]
    intro r member
    apply written r
    rw [← rostered.mirrors.told.taken, along.batch]
    exact List.mem_append_right _ member
  exact List.eq_nil_of_length_eq_zero (all.symm.trans none_left)

theorem prompt_laps (scheduler : Scheduler σ) (k : Nat) (ready : Ready p input records limit ride)
    (pending : ride.batch.stage ≠ .resolved) (positive : 0 < limit)
    (settles : ride.Settles scheduler)
    (within : ride.batch.unsubmitted.countP p.format.writes + ride.batch.inFlight ≤ k * limit) :
    ∃ n, ((Ride.lap scheduler)^[n] ride).cycle.1.stillPending = false ∧ n < 2 * k + 1 ∧
      ((∀ r ∈ records, p.format.writes r = true) → n < 2 * k) := by
  induction k generalizing ride with
  | zero =>
    rw [Nat.zero_mul, Nat.le_zero] at within
    exact ⟨0, ready_rest scheduler ready pending positive (settles 0) within, Nat.one_pos,
      fun written => absurd within (ready_work ready pending written)⟩
  | succ k ih =>
    cases first : ride.cycle.1.stillPending with
    | false => exact ⟨0, first, by omega, fun _ => by omega⟩
    | true =>
      have pending' := (ride.lap_pending scheduler).mp first
      obtain ⟨submitted, ready', fills⟩ := ready_lap scheduler ready pending (settles 0)
      have settles' := ride.settles_lap scheduler settles
      cases second : (ride.lap scheduler).cycle.1.stillPending with
      | false => exact ⟨1, second, by omega, fun _ => by omega⟩
      | true =>
        have pending'' := ((ride.lap scheduler).lap_pending scheduler).mp second
        obtain ⟨more, ready'', refills⟩ := ready_lap scheduler ready' pending' (settles' 0)
        have filled := fills_twice p.format _ _ _ submitted more fills refills
          (mt (ready_stage ready'').mpr pending'')
        rw [ready.ceiling] at filled
        rw [Nat.succ_mul] at within
        obtain ⟨n, last, few, fewer⟩ := ih ready'' pending''
          (Ride.settles_lap scheduler _ settles') (by omega)
        refine ⟨n + 2, ?_, by omega, fun written => ?_⟩
        · rw [Function.iterate_succ_apply, Function.iterate_succ_apply]
          exact last
        · have fewer := fewer written
          omega

theorem ready_start (p : Publisher) (input : Input) (client : Client) (clock : σ)
    (records : List Record) (parsed : p.format.parse p.key input.content = .ok records)
    (nonempty : records ≠ []) (prompt : client.IsPrompt) :
    Ready p input records (max p.settings.ceiling 1) ⟨p.openBatch input, client, clock⟩ where
  rostered := ⟨Course.start p input client, [], ⟨rfl, rfl⟩,
    rostered_start p input client records parsed nonempty⟩
  prompt := prompt
  idle := rfl
  ceiling := rfl

/-- A prompt client's drive ends within twice the cycles that its messages need, and one more where
records that cannot be written wait behind the last of them. -/
theorem prompt_drive_ends (p : Publisher) (input : Input) (client : Client) (clock : σ)
    (scheduler : Scheduler σ) (maxCycles : Option Nat) (records : List Record)
    (parsed : p.format.parse p.key input.content = .ok records) (nonempty : records ≠ [])
    (prompt : client.IsPrompt)
    (settles : Ride.Settles scheduler ⟨p.openBatch input, client, clock⟩)
    (enough : ∀ limit, maxCycles = some limit →
      2 * (records.countP p.format.writes ⌈/⌉ max p.settings.ceiling 1) + 1 ≤ limit) :
    ∃ report after,
      Ride.drive scheduler maxCycles ⟨p.openBatch input, client, clock⟩ =
        some (.ok report, after) ∧
      after.batch.stage = .resolved ∧
      report.cycles ≤ 2 * (records.countP p.format.writes ⌈/⌉ max p.settings.ceiling 1) + 1 ∧
      ((∀ r ∈ records, p.format.writes r = true) →
        report.cycles ≤ 2 * (records.countP p.format.writes ⌈/⌉ max p.settings.ceiling 1)) := by
  have ready := ready_start p input client clock records parsed nonempty prompt
  have positive : 0 < max p.settings.ceiling 1 := by omega
  have opened : p.openBatch input = .new input records none (p.tracker input.attributes) := by
    simp [Publisher.openBatch, read_parsed p input.content records parsed nonempty]
  have needed : records.countP p.format.writes ≤
      records.countP p.format.writes ⌈/⌉ max p.settings.ceiling 1 * max p.settings.ceiling 1 := by
    rw [Nat.mul_comm]
    exact (ceilDiv_le_iff_le_mul positive).mp (Nat.le_refl _)
  have most : records.countP p.format.writes ⌈/⌉ max p.settings.ceiling 1 ≤
      records.countP p.format.writes := by
    rw [ceilDiv_le_iff_le_mul positive]
    exact Nat.le_mul_of_pos_left _ positive
  obtain ⟨n, last, few, fewer⟩ := prompt_laps scheduler
    (records.countP p.format.writes ⌈/⌉ max p.settings.ceiling 1) ready
    (by simp [opened, Batch.new])
    positive settles
    (by simpa [opened, Batch.new, Batch.inFlight, Publisher.tracker, Tracker.new] using needed)
  obtain ⟨report, after, ended, resolved, cycles⟩ := Ride.drive_ends scheduler maxCycles n _
    (fun limit limited => by
      have room := enough limit limited
      omega) last
  refine ⟨report, after, ended, resolved, by omega, fun written => ?_⟩
  have fewer := fewer written
  omega

def Scheduler.eager : Scheduler Unit where
  turn _ _ t := (t.awaited.keys.map .run, ())

theorem eager_settles (r : Ride Unit) : r.Settles Scheduler.eager := by
  refine Ride.turns_settle Scheduler.eager (fun _ _ t call => ?_) r
  rw [← Bool.not_eq_true]
  intro due
  obtain ⟨waits, apart⟩ := (t.runs_due t.awaited.keys call).mp due
  obtain ⟨ordinal, signal, found⟩ := (t.due_iff call).mp waits
  refine apart ?_
  rw [Std.ExtTreeMap.mem_keys, Std.ExtTreeMap.mem_iff_isSome_getElem?, found]
  rfl

namespace Sample

def prompt : Client where
  answer
    | 0, _ => .refused ⟨.publish, []⟩
    | 1, _ => .taken (some .crashed)
    | _, _ => .taken (some .delivered)

theorem prompt_answers : prompt.IsPrompt := by
  intro n m
  match n with
  | 0 => exact .inl ⟨_, rfl⟩
  | 1 => exact .inr ⟨_, rfl⟩
  | _ + 2 => exact .inr ⟨_, rfl⟩

end Sample

theorem sample_drive_ends :
    Sample.patient.format.parse Sample.patient.key Sample.input.content = .ok Sample.records ∧
      Sample.records ≠ [] ∧ Sample.prompt.IsPrompt ∧
      Ride.Settles Scheduler.eager ⟨Sample.patient.openBatch Sample.input, Sample.prompt, ()⟩ ∧
      Sample.records.countP Sample.patient.format.writes = 2 ∧
      max Sample.patient.settings.ceiling 1 = 1 ∧
      ∃ report after,
        Ride.drive Scheduler.eager (some 5)
          ⟨Sample.patient.openBatch Sample.input, Sample.prompt, ()⟩ = some (.ok report, after) ∧
        report.cycles ≤ 5 := by
  have messages : Sample.records.countP Sample.patient.format.writes = 2 := by decide
  have slots : max Sample.patient.settings.ceiling 1 = 1 := by decide
  have cycles : 2 ⌈/⌉ 1 = 2 := by decide
  obtain ⟨report, after, ended, _, few, _⟩ := prompt_drive_ends Sample.patient Sample.input
    Sample.prompt () Scheduler.eager (some 5) Sample.records rfl (by decide) Sample.prompt_answers
    (eager_settles _) (by rw [messages, slots, cycles]; rintro _ ⟨⟩; exact Nat.le_refl _)
  rw [messages, slots, cycles] at few
  exact ⟨rfl, by decide, Sample.prompt_answers, eager_settles _, messages, slots, report, after,
    ended, few⟩

end Courier
