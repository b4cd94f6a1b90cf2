import Courier.Proofs.Balance

set_option autoImplicit false

namespace Courier

def Ledger.Enters (l : Ledger) (ordinal : Nat) : Outcome → Prop
  | .delivered => ordinal ∈ l.success
  | .failed _ => ordinal ∈ l.failure

namespace Tracker

theorem submit_queue (t : Tracker) (r : Record) (c : Client) :
    t.finished.toList <+: (t.submit r c).2.1.finished.toList := by
  rcases t.submit_cases r c with ⟨_, next⟩ | ⟨_, fault, _, next⟩ |
    ⟨_, payload, _, ⟨note, _, next⟩ | ⟨report, _, next⟩ | ⟨signal, _, next⟩⟩
  · rw [next]
  · rw [next]
  · rw [next]
  · rw [next]
    simp [finish, hold]
  · rw [next]
    exact List.prefix_refl _

theorem poll_empty (t : Tracker) (empty : t.finished = #[]) : t.poll = (#[], t) := by
  cases t
  cases empty
  rfl

end Tracker

namespace Batch

def admitted (b : Batch) (c : Client) : List Record × Admission :=
  handOver b.unsubmitted (b.admission c)

def Stopped (seen : Nat) (left : List Record) (a : Admission) : Prop :=
  left = [] ∨ a.tracker.hasCapacity = false ∨
    ∃ (r : Record) (later : List Record) (payload : Bytes) (c : Client) (note : Text),
      left = r :: later ∧ a.tracker.format.render r = .ok payload ∧ seen ≤ c.calls.size ∧
      c.answer c.calls.size (a.tracker.message r payload) = .full note ∧
      a.client = (c.publish (a.tracker.message r payload)).2

theorem stopped_since (before seen : Nat) (left : List Record) (a : Admission)
    (within : before ≤ seen) (stopped : Stopped seen left a) : Stopped before left a := by
  rcases stopped with all | busy | ⟨r, later, payload, c, note, same, rendered, fresh, full, made⟩
  · exact .inl all
  · exact .inr (.inl busy)
  · exact .inr (.inr ⟨r, later, payload, c, note, same, rendered, Nat.le_trans within fresh, full,
      made⟩)

theorem hand_over_greedy (rest : List Record) (a : Admission) :
    Stopped a.client.calls.size (handOver rest a).1 (handOver rest a).2 := by
  induction rest generalizing a with
  | nil => exact .inl rfl
  | cons r rest ih =>
    obtain ⟨t, l, c, submitted, resolved⟩ := a
    have grown (m : Message) : c.calls.size ≤ (c.publish m).2.calls.size := by
      simp [Client.publish]
    rw [handOver]
    rcases t.submit_cases r c with ⟨busy, next⟩ | ⟨_, fault, _, next⟩ |
      ⟨_, payload, rendered, ⟨note, full, next⟩ | ⟨report, _, next⟩ | ⟨signal, _, next⟩⟩
    · rw [next]
      exact .inr (.inl busy)
    · rw [next]
      exact ih _
    · rw [next]
      exact .inr (.inr ⟨r, rest, payload, c, note, rfl, rendered, Nat.le_refl _, full, rfl⟩)
    · rw [next]
      exact stopped_since _ _ _ _ (grown _) (ih _)
    · rw [next]
      exact stopped_since _ _ _ _ (grown _) (ih _)

theorem hand_over_moves (rest : List Record) (a : Admission) :
    ((handOver rest a).1 = rest ∧ (handOver rest a).2.tracker = a.tracker ∧
        (handOver rest a).2.ledger = a.ledger) ∨
      a.submitted + a.resolved < (handOver rest a).2.submitted + (handOver rest a).2.resolved := by
  have kept := hand_over_ind
    (fun left now => (left = rest ∧ now.tracker = a.tracker ∧ now.ledger = a.ledger) ∧
        now.submitted + now.resolved = a.submitted + a.resolved ∨
      a.submitted + a.resolved < now.submitted + now.resolved)
    (by
      intro r left now t c _ kept
      right
      dsimp only
      omega)
    (by
      intro r left now fault _ kept
      right
      dsimp only
      omega)
    (fun r left now c _ kept => kept) rest a (.inl ⟨⟨rfl, rfl, rfl⟩, rfl⟩)
  exact kept.imp_left And.left

structure Unmoved (b b' : Batch) : Prop where
  unsubmitted : b'.unsubmitted = b.unsubmitted
  inFlight : b'.tracker.inFlight = b.tracker.inFlight
  success : b'.ledger.success = b.ledger.success
  failure : b'.ledger.failure = b.ledger.failure
  stage : b'.stage = b.stage

end Batch

variable {p : Publisher} {attributes : Attributes} {records : List Record} {first : Nat}
  {given : List (Nat × Signal)} {roster : List Entry} {rest : List Record}
  {t : Tracker} {l : Ledger} {c : Client}

theorem mirrors_entered (mirrors : Mirrors p attributes records first given roster rest t l c)
    (i : Nat) (outcome : Outcome) (queued : (i, outcome) ∈ t.finished.toList) :
    i ∉ t.poll.2.inFlight ∧ (t.poll.1.foldl Batch.enter l).Enters i outcome := by
  obtain ⟨r, payload, call, found, _⟩ :=
    tracker_completion roster t l mirrors.tracker i outcome queued
  have collected : (roster.map Entry.collect)[i]? =
      some (.sent r payload call (.entered outcome)) := by
    rw [List.getElem?_map, found]
    rfl
  have tracked := (mirrors_collect mirrors).tracker
  have held := tracked.inFlight i
  have success := tracked.success i
  have failure := tracked.failure i
  rw [collected] at held success failure
  rw [Std.ExtTreeMap.mem_iff_isSome_getElem?, held]
  refine ⟨by simp [Entry.inFlight?], ?_⟩
  cases outcome with
  | delivered =>
    rw [Ledger.Enters, Std.ExtTreeMap.mem_iff_isSome_getElem?, success]
    rfl
  | failed report =>
    rw [Ledger.Enters, Std.ExtTreeMap.mem_iff_isSome_getElem?, failure]
    rfl

theorem mirrors_uncollected
    (mirrors : Mirrors p attributes records first given roster rest t l c)
    (none_collected : t.poll.1.size = 0) : t.finished = #[] := by
  have ordinals := completions_ordinals roster t l mirrors.tracker (mirrors_placed mirrors)
  have nothing : t.poll.1.toList = [] := by simpa using none_collected
  rw [← (t.poll_spec mirrors.tracker.once).1, nothing] at ordinals
  simpa using ordinals.symm

theorem mirrors_awaits (mirrors : Mirrors p attributes records first given roster rest t l c)
    (empty : t.finished = #[]) (i : Nat) (f : InFlight) (held : t.inFlight[i]? = some f) :
    ∃ call ∈ (c.callsFrom first).filter Call.isHanded,
      t.awaited[call.number]? = some ⟨i, call.signal? given⟩ := by
  rw [mirrors.tracker.inFlight i] at held
  obtain ⟨e, found, under_way⟩ := Option.bind_eq_some_iff.mp held
  have member := List.mem_of_getElem? found
  cases e with
  | unwritable r => cases under_way
  | sent r payload call phase =>
    cases phase with
    | entered outcome => cases under_way
    | queued outcome =>
      have queued := (mirrors.tracker.queued i outcome).mpr (by rw [found]; rfl)
      rw [empty] at queued
      cases queued
    | awaited signal =>
      have sent := List.mem_filterMap.mpr ⟨_, member, (rfl : Entry.call? _ = some call)⟩
      rw [mirrors.told.handed] at sent
      have told : call.signal? given = signal := (mirrors.told.follows _ member).2
      rw [← told] at found
      exact ⟨call, sent, (mirrors.tracker.awaited _ i _).mpr (by rw [found]; rfl)⟩

-- What keeps records waiting that are left: all slots are taken, or the last call that was made
-- found no room for the first of them.
def Blocked (p : Publisher) (attributes : Attributes) (held : Nat) (made : List Call)
    (left : List Record) : Prop :=
  held = max p.settings.ceiling 1 ∨
    ∃ r call, left.head? = some r ∧ made.getLast? = some call ∧ call.answer.isFull = true ∧
      p.message? attributes r = some call.message

-- A record under way of which the client has not said what became of it, or whose task has not run
-- since.
def Course.AwaitsAck (s : Course) (ordinal : Nat) : Prop :=
  ∃ call ∈ s.handed, (s.batch.tracker.awaited[call.number]?).map Awaited.ordinal = some ordinal ∧
    (call.signal? s.given = none ∨ s.batch.tracker.isDue call.number = true)

-- A batch at a point of a course, and what its next cycle does: it ends handing over only for a
-- reason, leaves no outcome in the queue, and is honest about its progress.
structure Diligent (p : Publisher) (input : Input) (s : Course) : Prop where
  left : (s.step .cycle).batch.unsubmitted = (s.batch.admitted s.client).1
  said : (s.step .cycle).client = (s.batch.admitted s.client).2.client
  greedy : (s.batch.admitted s.client).1 = [] ∨
    Blocked p input.attributes (s.batch.admitted s.client).2.tracker.inFlight.size
      ((s.step .cycle).client.callsFrom s.client.calls.size) (s.batch.admitted s.client).1
  queued : s.batch.tracker.finished.toList <+:
    (s.batch.admitted s.client).2.tracker.finished.toList
  emptied : (s.step .cycle).batch.tracker.finished = #[]
  entered : ∀ i outcome,
    (i, outcome) ∈ (s.batch.admitted s.client).2.tracker.finished.toList →
      i ∉ (s.step .cycle).batch.tracker.inFlight ∧
        (s.step .cycle).batch.ledger.Enters i outcome
  honest : (s.batch.cycle s.client).1.madeProgress = false ↔
    Batch.Unmoved s.batch (s.step .cycle).batch
  still : (s.batch.cycle s.client).1.madeProgress = false →
    (s.step .cycle).batch = { s.batch with cycles := s.batch.cycles + 1 }
  waits : (s.batch.cycle s.client).1.madeProgress = false →
    s.batch.unsubmitted ≠ [] ∧
        Blocked p input.attributes s.batch.inFlight
          ((s.step .cycle).client.callsFrom s.client.calls.size) s.batch.unsubmitted ∨
      s.batch.unsubmitted = [] ∧ ∀ i ∈ s.batch.tracker.inFlight, s.AwaitsAck i

theorem step_admitted (s : Course) (pending : s.batch.stage ≠ .resolved)
    (readable : s.batch.unreadable = none) :
    (s.step .cycle).batch.unsubmitted = (s.batch.admitted s.client).1 ∧
      (s.step .cycle).client = (s.batch.admitted s.client).2.client ∧
      (s.step .cycle).batch.tracker = (s.batch.admitted s.client).2.tracker.poll.2 ∧
      (s.step .cycle).batch.ledger = (s.batch.admitted s.client).2.tracker.poll.1.foldl
        Batch.enter (s.batch.admitted s.client).2.ledger := by
  simp only [Course.step, s.batch.cycle_readable s.client pending readable,
    (s.batch.advance_spec s.client).1]
  exact ⟨rfl, rfl, rfl, rfl⟩

theorem progress_iff (result : Batch.CycleResult) : result.madeProgress = false ↔
    result.submitted = 0 ∧ result.resolved = 0 ∧ result.stillPending = true := by
  simp [Batch.CycleResult.madeProgress, and_assoc]

theorem rostered_greedy (input : Input) (s : Course)
    (rostered : CourseRostered p input records s roster)
    (within : s.batch.inFlight ≤ s.batch.tracker.ceiling)
    (ceiling : s.batch.tracker.ceiling = max p.settings.ceiling 1) :
    (s.batch.admitted s.client).1 = [] ∨
      Blocked p input.attributes (s.batch.admitted s.client).2.tracker.inFlight.size
        ((s.batch.admitted s.client).2.client.callsFrom s.client.calls.size)
        (s.batch.admitted s.client).1 := by
  obtain ⟨fresh, mirrors⟩ := mirrors_handOver s.batch.unsubmitted
    (s.batch.admission s.client) roster rostered.mirrors
  obtain ⟨limit, slots⟩ := Batch.hand_over_within s.batch.unsubmitted
    (s.batch.admission s.client) within
  rcases Batch.hand_over_greedy s.batch.unsubmitted (s.batch.admission s.client) with
    all | busy | ⟨r, left, payload, c, note, same, rendered, seen, full, made⟩
  · exact .inl all
  · refine .inr (.inl ?_)
    rw [Tracker.hasCapacity, decide_eq_false_iff_not, Nat.not_lt] at busy
    rw [← ceiling]
    exact (Nat.le_antisymm slots busy).trans limit
  · rw [mirrors.format] at rendered
    have message := mirrors_message r payload mirrors rendered
    have last : ((s.batch.admitted s.client).2.client.callsFrom s.client.calls.size).getLast? =
        some ⟨c.calls.size, (s.batch.admitted s.client).2.tracker.message r payload,
          .full note⟩ := by
      rw [Batch.admitted, made, c.callsFrom_push _ s.client.calls.size seen, List.getLast?_concat,
        full]
    exact .inr (.inr ⟨r, _, congrArg List.head? same, last, rfl, message⟩)

theorem rostered_still (input : Input) (s : Course)
    (rostered : CourseRostered p input records s roster) (pending : s.batch.stage ≠ .resolved)
    (staged : s.batch.stage = Batch.stageOf s.batch.unsubmitted s.batch.tracker)
    (idle : (s.batch.cycle s.client).1.madeProgress = false) :
    s.batch.tracker.finished = #[] ∧ (s.batch.admitted s.client).1 = s.batch.unsubmitted ∧
      (s.batch.admitted s.client).2.tracker = s.batch.tracker ∧
      (s.step .cycle).batch = { s.batch with cycles := s.batch.cycles + 1 } := by
  have cycled := s.batch.cycle_readable s.client pending rostered.readable
  obtain ⟨after, result⟩ := s.batch.advance_spec s.client
  rw [progress_iff, cycled, result] at idle
  obtain ⟨unsubmitted, unresolved, _⟩ := idle
  dsimp only at unsubmitted unresolved
  obtain ⟨left, tracker, ledger⟩ := (Batch.hand_over_moves s.batch.unsubmitted
    (s.batch.admission s.client)).resolve_right (by omega)
  change _ = s.batch.tracker at tracker
  change _ = s.batch.ledger at ledger
  rw [tracker] at unresolved
  have empty := mirrors_uncollected rostered.mirrors (Nat.eq_zero_of_add_eq_zero_left unresolved)
  refine ⟨empty, left, tracker, ?_⟩
  simp only [Course.step, cycled, after, left, tracker, ledger, s.batch.tracker.poll_empty empty,
    ← staged]
  rfl

theorem unmoved_idle (s : Course) (balances : s.batch.Balances s.client s.first)
    (pending : s.batch.stage ≠ .resolved) (readable : s.batch.unreadable = none)
    (unmoved : Batch.Unmoved s.batch (s.step .cycle).batch) :
    (s.batch.cycle s.client).1.madeProgress = false := by
  have cycled := s.batch.cycle_readable s.client pending readable
  have result := (s.batch.advance_spec s.client).2
  have waits := (s.batch.cycle_pending s.client).mpr
  have collected : s.batch.collected s.client =
      (s.batch.admitted s.client).2.tracker.poll.1 :=
    if_neg (by simp [pending, readable])
  have gained := balances.gained
  have slots := balances.slots
  change (s.step .cycle).batch.ledger.success.size + (s.step .cycle).batch.ledger.failure.size =
    s.batch.ledger.success.size + s.batch.ledger.failure.size + _ at gained
  change (s.step .cycle).batch.tracker.inFlight.size + _ =
    s.batch.tracker.inFlight.size + _ at slots
  rw [unmoved.success, unmoved.failure] at gained
  rw [unmoved.inFlight, collected] at slots
  have unresolved : (s.batch.cycle s.client).1.resolved = 0 := by omega
  have counted : (s.batch.cycle s.client).1.resolved =
      (s.batch.admitted s.client).2.resolved +
        (s.batch.admitted s.client).2.tracker.poll.1.size := by
    rw [cycled, result]
    rfl
  rw [progress_iff]
  refine ⟨by omega, unresolved, waits ?_⟩
  change (s.step .cycle).batch.stage ≠ .resolved
  rw [unmoved.stage]
  exact pending

theorem idle_waits (input : Input) (s : Course) (rostered : CourseRostered p input records s roster)
    (pending : s.batch.stage ≠ .resolved)
    (staged : s.batch.stage = Batch.stageOf s.batch.unsubmitted s.batch.tracker)
    (within : s.batch.inFlight ≤ s.batch.tracker.ceiling)
    (ceiling : s.batch.tracker.ceiling = max p.settings.ceiling 1)
    (idle : (s.batch.cycle s.client).1.madeProgress = false) :
    s.batch.unsubmitted ≠ [] ∧
        Blocked p input.attributes s.batch.inFlight
          ((s.batch.admitted s.client).2.client.callsFrom s.client.calls.size)
          s.batch.unsubmitted ∨
      s.batch.unsubmitted = [] ∧ ∀ i ∈ s.batch.tracker.inFlight, s.AwaitsAck i := by
  obtain ⟨empty, left, tracker, _⟩ := rostered_still input s rostered pending staged idle
  have greedy := rostered_greedy input s rostered within ceiling
  rw [left, tracker] at greedy
  by_cases all : s.batch.unsubmitted = []
  · refine .inr ⟨all, fun i member => ?_⟩
    rw [Std.ExtTreeMap.mem_iff_isSome_getElem?] at member
    obtain ⟨f, held⟩ := Option.isSome_iff_exists.mp member
    obtain ⟨call, handed, awaited⟩ := mirrors_awaits rostered.mirrors empty i f held
    refine ⟨call, handed, by rw [awaited]; rfl, ?_⟩
    rw [Tracker.isDue, awaited]
    cases call.signal? s.given <;> simp
  · exact .inl ⟨all, greedy.resolve_left all⟩

/-- Each cycle goes as far as it can, and reports no progress exactly when it has moved nothing. -/
theorem cycles_diligent (p : Publisher) (input : Input) (client : Client) (moves : List Move)
    (records : List Record) (parsed : p.format.parse p.key input.content = .ok records)
    (nonempty : records ≠ [])
    (pending : ((Course.start p input client).run moves).batch.stage ≠ .resolved) :
    Diligent p input ((Course.start p input client).run moves) := by
  obtain ⟨roster, rostered⟩ := rostered_run input client moves parsed nonempty
  have staged := course_staged input client moves parsed nonempty
  have ceiling := course_ceiling p input client moves
  have within := (course_tallied p input client moves).within
  generalize (Course.start p input client).run moves = s at rostered staged ceiling within pending ⊢
  have balances := rostered_balances input s rostered within
  have still := rostered_still input s rostered pending staged
  obtain ⟨fresh, mirrors⟩ := mirrors_handOver s.batch.unsubmitted
    (s.batch.admission s.client) roster rostered.mirrors
  obtain ⟨left, said, polled, entered⟩ := step_admitted s pending rostered.readable
  exact {
    left := left
    said := said
    greedy := by
      rw [said]
      exact rostered_greedy input s rostered within ceiling
    queued := Batch.hand_over_keeps
      (fun t _ => s.batch.tracker.finished.toList <+: t.finished.toList)
      (fun t r c before => before.trans (t.submit_queue r c)) _ _ (List.prefix_refl _)
    emptied := by
      rw [polled]
      rfl
    entered := by
      rw [polled, entered]
      exact mirrors_entered mirrors
    honest := by
      refine ⟨fun idle => ?_, unmoved_idle s balances pending rostered.readable⟩
      rw [(still idle).2.2.2]
      exact ⟨rfl, rfl, rfl, rfl, rfl⟩
    still := fun idle => (still idle).2.2.2
    waits := by
      rw [said]
      exact idle_waits input s rostered pending staged within ceiling }

theorem sample_diligent :
    Sample.patient.format.parse Sample.patient.key Sample.input.content = .ok Sample.records ∧
      Sample.records ≠ [] ∧
      ((Course.start Sample.patient Sample.input Sample.brusque).run
        [.cycle, .cycle]).batch.stage ≠ .resolved ∧
      (((Course.start Sample.patient Sample.input Sample.brusque).run
        [.cycle, .cycle]).batch.cycle ((Course.start Sample.patient Sample.input
          Sample.brusque).run [.cycle, .cycle]).client).1.madeProgress = false ∧
      Diligent Sample.patient Sample.input
        ((Course.start Sample.patient Sample.input Sample.brusque).run [.cycle, .cycle]) :=
  ⟨rfl, by decide, by decide, by decide, cycles_diligent Sample.patient Sample.input Sample.brusque
    [.cycle, .cycle] Sample.records rfl (by decide) (by decide)⟩

end Courier
