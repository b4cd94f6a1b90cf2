import Courier.Proofs.Lifecycle
import Mathlib.Algebra.Order.Floor.Div

set_option autoImplicit false

/- Balance: what a cycle reports against what it changes, and what the reports of a course add up
   to. A record that is handed over takes a slot until its outcome is collected, and that is not
   before the end of the cycle, so a batch needs at least the cycles in which its messages find
   slots. -/
namespace Courier

def Client.handedFrom (c : Client) (first : Nat) : List Call :=
  (c.callsFrom first).filter Call.isHanded

theorem Client.handed_publish (c : Client) (m : Message) (first : Nat)
    (seen : first ≤ c.calls.size) :
    first ≤ (c.publish m).2.calls.size ∧
      ((c.publish m).2.handedFrom first).length =
        (c.handedFrom first).length + if (c.answer c.calls.size m).isFull then 0 else 1 := by
  refine ⟨Nat.le_trans seen (by simp [publish]), ?_⟩
  rw [handedFrom, c.callsFrom_push m first seen, List.filter_append, List.length_append]
  cases full : (c.answer c.calls.size m).isFull <;> simp [Call.isHanded, full, handedFrom]

namespace Tracker

theorem submit_handed (t : Tracker) (r : Record) (c : Client) (first : Nat)
    (seen : first ≤ c.calls.size) :
    first ≤ (t.submit r c).2.2.calls.size ∧
      ((t.submit r c).2.2.handedFrom first).length =
        (c.handedFrom first).length + if (t.submit r c).1 = .accepted then 1 else 0 := by
  rcases t.submit_cases r c with ⟨_, next⟩ | ⟨_, fault, _, next⟩ |
    ⟨_, payload, _, ⟨note, answer, next⟩ | ⟨report, answer, next⟩ | ⟨signal, answer, next⟩⟩
  · rw [next]
    exact ⟨seen, rfl⟩
  · rw [next]
    exact ⟨seen, rfl⟩
  · have made := c.handed_publish (t.message r payload) first seen
    rw [answer] at made
    rw [next]
    exact made
  · have made := c.handed_publish (t.message r payload) first seen
    rw [answer] at made
    rw [next]
    exact made
  · have made := c.handed_publish (t.message r payload) first seen
    rw [answer] at made
    rw [next]
    exact made

theorem submit_accepted (t : Tracker) (r : Record) (c : Client) (t' : Tracker) (c' : Client)
    (accepted : t.submit r c = (.accepted, t', c')) :
    t.format.writes r = true ∧ t'.format = t.format ∧
      t'.inFlight.size ≤ t.inFlight.size + 1 ∧ t'.awaited.size ≤ t.awaited.size + 1 := by
  rcases t.submit_cases r c with ⟨_, next⟩ | ⟨_, fault, _, next⟩ |
    ⟨_, payload, rendered, ⟨note, _, next⟩ | ⟨report, _, next⟩ | ⟨signal, _, next⟩⟩
  · rw [accepted] at next
    cases next
  · rw [accepted] at next
    cases next
  · rw [accepted] at next
    cases next
  · rw [accepted] at next
    cases next
    exact ⟨by rw [Format.writes, rendered]; rfl, rfl, (t.hold_size r payload).2, Nat.le_succ _⟩
  · rw [accepted] at next
    cases next
    exact ⟨by rw [Format.writes, rendered]; rfl, rfl, (t.hold_size r payload).2,
      Std.ExtTreeMap.size_insert_le⟩

theorem submit_rejected (t : Tracker) (r : Record) (c : Client) (fault : Unwritable)
    (rejected : t.submit r c = (.rejected r fault, t, c)) : t.format.writes r = false := by
  rcases t.submit_cases r c with ⟨_, next⟩ | ⟨_, fault, failed, _⟩ |
    ⟨_, payload, _, ⟨note, _, next⟩ | ⟨report, _, next⟩ | ⟨signal, _, next⟩⟩
  · rw [rejected] at next
    cases next
  · rw [Format.writes, failed]
    rfl
  · rw [rejected] at next
    cases next
  · rw [rejected] at next
    cases next
  · rw [rejected] at next
    cases next

end Tracker

namespace Batch

def collected (b : Batch) (c : Client) : Array Completion :=
  if b.stage = .resolved ∨ b.unreadable.isSome then #[]
  else (handOver b.unsubmitted (b.admission c)).2.tracker.poll.1

theorem hand_over_ind (I : List Record → Admission → Prop)
    (accepted : ∀ (r : Record) (rest : List Record) (a : Admission) (t : Tracker) (c : Client),
      a.tracker.submit r a.client = (.accepted, t, c) → I (r :: rest) a →
        I rest { a with tracker := t, client := c, submitted := a.submitted + 1 })
    (rejected : ∀ (r : Record) (rest : List Record) (a : Admission) (fault : Unwritable),
      a.tracker.submit r a.client = (.rejected r fault, a.tracker, a.client) → I (r :: rest) a →
        I rest { a with ledger := a.ledger.recordFailure r.ordinal r.raw,
                        resolved := a.resolved + 1 })
    (deferred : ∀ (r : Record) (rest : List Record) (a : Admission) (c : Client),
      a.tracker.submit r a.client = (.deferred r, a.tracker, c) → I (r :: rest) a →
        I (r :: rest) { a with client := c })
    (rest : List Record) (a : Admission) (holds : I rest a) :
    I (handOver rest a).1 (handOver rest a).2 := by
  induction rest generalizing a with
  | nil => exact holds
  | cons r rest ih =>
    obtain ⟨t, l, c, submitted, resolved⟩ := a
    rw [handOver]
    rcases t.submit_cases r c with ⟨_, next⟩ | ⟨_, fault, _, next⟩ |
      ⟨_, payload, _, ⟨note, _, next⟩ | ⟨report, _, next⟩ | ⟨signal, _, next⟩⟩
    · rw [next]
      exact deferred r rest _ _ next holds
    · rw [next]
      exact ih _ (rejected r rest _ _ next holds)
    · rw [next]
      exact deferred r rest _ _ next holds
    · rw [next]
      exact ih _ (accepted r rest _ _ _ next holds)
    · rw [next]
      exact ih _ (accepted r rest _ _ _ next holds)

theorem hand_over_handed (rest : List Record) (a : Admission) (first : Nat)
    (seen : first ≤ a.client.calls.size) :
    first ≤ (handOver rest a).2.client.calls.size ∧
      ((handOver rest a).2.client.handedFrom first).length + a.submitted =
        (a.client.handedFrom first).length + (handOver rest a).2.submitted := by
  refine hand_over_ind (fun _ now => first ≤ now.client.calls.size ∧
    (now.client.handedFrom first).length + a.submitted =
      (a.client.handedFrom first).length + now.submitted) ?_ ?_ ?_ rest a ⟨seen, rfl⟩
  · intro r rest now t c accepted ⟨seen, counted⟩
    obtain ⟨later, handed⟩ := now.tracker.submit_handed r now.client first seen
    rw [accepted, if_pos rfl] at handed
    rw [accepted] at later
    refine ⟨later, ?_⟩
    dsimp only at handed ⊢
    omega
  · intro r rest now fault _ kept
    exact kept
  · intro r rest now c deferred ⟨seen, counted⟩
    obtain ⟨later, handed⟩ := now.tracker.submit_handed r now.client first seen
    rw [deferred, if_neg (by simp)] at handed
    rw [deferred] at later
    refine ⟨later, ?_⟩
    dsimp only at handed ⊢
    omega

theorem hand_over_taken (rest : List Record) (a : Admission) :
    (handOver rest a).1.length + (handOver rest a).2.submitted + (handOver rest a).2.resolved =
        rest.length + a.submitted + a.resolved ∧
      (handOver rest a).2.tracker.inFlight.size + a.submitted ≤
        a.tracker.inFlight.size + (handOver rest a).2.submitted ∧
      (handOver rest a).2.ledger.resolvedCount + a.resolved ≤
        a.ledger.resolvedCount + (handOver rest a).2.resolved := by
  refine hand_over_ind (fun left now =>
    left.length + now.submitted + now.resolved = rest.length + a.submitted + a.resolved ∧
      now.tracker.inFlight.size + a.submitted ≤ a.tracker.inFlight.size + now.submitted ∧
      now.ledger.resolvedCount + a.resolved ≤ a.ledger.resolvedCount + now.resolved)
    ?_ ?_ ?_ rest a ⟨rfl, Nat.le_refl _, Nat.le_refl _⟩
  · intro r rest now t c accepted ⟨taken, held, entered⟩
    obtain ⟨_, _, one, _⟩ := now.tracker.submit_accepted r now.client t c accepted
    rw [List.length_cons] at taken
    dsimp only
    omega
  · intro r rest now fault _ ⟨taken, held, entered⟩
    have one : (now.ledger.recordFailure r.ordinal r.raw).resolvedCount ≤
        now.ledger.resolvedCount + 1 :=
      Nat.add_le_add_left Std.ExtTreeMap.size_insert_le now.ledger.successCount
    rw [List.length_cons] at taken
    dsimp only
    omega
  · intro r rest now c _ kept
    exact kept

structure Balances (b : Batch) (c : Client) (first : Nat) : Prop where
  room : (b.cycle c).1.submitted ≤ b.tracker.ceiling - b.inFlight
  slots : (b.cycle c).2.1.inFlight + (b.collected c).size = b.inFlight + (b.cycle c).1.submitted
  gained : (b.cycle c).2.1.ledger.successCount + (b.cycle c).2.1.ledger.failureCount =
    b.ledger.successCount + b.ledger.failureCount + (b.cycle c).1.resolved
  handed : ((b.cycle c).2.2.handedFrom first).length =
    (c.handedFrom first).length + (b.cycle c).1.submitted

theorem idle_balances (b : Batch) (c : Client) (first : Nat)
    (idle : b.stage = .resolved ∨ b.unreadable.isSome) : b.Balances c first := by
  have none_collected : b.collected c = #[] := if_pos idle
  rcases b.cycle_cases c with ⟨_, next⟩ | ⟨_, _, next⟩ | ⟨pending, readable, _⟩
  · constructor <;> simp [next, none_collected, inFlight]
  · constructor <;> simp [next, none_collected, inFlight]
  · rw [readable] at idle
    exact absurd idle (by simp [pending])

end Batch

variable {p : Publisher} {attributes : Attributes} {records : List Record} {first : Nat}
  {given : List (Nat × Signal)} {roster : List Entry}

theorem hand_over_balance (rest : List Record) (a : Batch.Admission)
    (mirrors : Mirrors p attributes records first given roster rest a.tracker a.ledger a.client) :
    (Batch.handOver rest a).2.tracker.inFlight.size + a.submitted =
        a.tracker.inFlight.size + (Batch.handOver rest a).2.submitted ∧
      (Batch.handOver rest a).2.ledger.resolvedCount + a.resolved =
        a.ledger.resolvedCount + (Batch.handOver rest a).2.resolved := by
  obtain ⟨taken, held, entered⟩ := Batch.hand_over_taken rest a
  obtain ⟨fresh, after⟩ := mirrors_handOver rest a roster mirrors
  have counted := mirrors_count mirrors
  have recounted := mirrors_count after
  rw [Ledger.resolvedCount, Ledger.resolvedCount] at entered ⊢
  omega

theorem rostered_balances (input : Input) (s : Course)
    (rostered : CourseRostered p input records s roster)
    (within : s.batch.inFlight ≤ s.batch.tracker.ceiling) :
    s.batch.Balances s.client s.first := by
  by_cases resolved : s.batch.stage = .resolved
  · exact s.batch.idle_balances s.client s.first (.inl resolved)
  have cycled := s.batch.cycle_readable s.client resolved rostered.readable
  obtain ⟨after, result⟩ := s.batch.advance_spec s.client
  have collected : s.batch.collected s.client =
      (Batch.handOver s.batch.unsubmitted (s.batch.admission s.client)).2.tracker.poll.1 :=
    if_neg (by simp [resolved, rostered.readable])
  obtain ⟨held, entered⟩ := hand_over_balance s.batch.unsubmitted
    (s.batch.admission s.client) rostered.mirrors
  obtain ⟨_, handed⟩ := Batch.hand_over_handed s.batch.unsubmitted (s.batch.admission s.client)
    s.first rostered.mirrors.told.seen
  change _ + 0 = s.batch.tracker.inFlight.size + _ at held
  change _ + 0 = s.batch.ledger.successCount + s.batch.ledger.failureCount + _ at entered
  change _ + 0 = (s.client.handedFrom s.first).length + _ at handed
  obtain ⟨limit, slots⟩ := Batch.hand_over_within s.batch.unsubmitted
    (s.batch.admission s.client) within
  change _ = s.batch.tracker.ceiling at limit
  obtain ⟨fresh, mirrors⟩ := mirrors_handOver s.batch.unsubmitted
    (s.batch.admission s.client) roster rostered.mirrors
  have counted := mirrors_count mirrors
  have polled := mirrors_count (mirrors_collect mirrors)
  have freed := (Batch.handOver s.batch.unsubmitted
    (s.batch.admission s.client)).2.tracker.poll_size
  rw [Ledger.resolvedCount] at entered
  constructor
  · rw [cycled, result, Batch.inFlight]
    dsimp only
    omega
  · rw [cycled, after, result, collected, Batch.inFlight, Batch.inFlight]
    dsimp only
    omega
  · rw [cycled, after, result]
    dsimp only
    omega
  · rw [cycled, after, result]
    dsimp only
    omega

theorem Batch.cycle_counted (b : Batch) (c : Client) :
    (b.stage = .resolved ∧ b.cycle c = ({}, b, c)) ∨
      (b.stage ≠ .resolved ∧ (b.cycle c).2.1.cycles = b.cycles + 1) := by
  rcases b.cycle_cases c with resolved | ⟨pending, _, next⟩ | ⟨pending, _, next⟩
  · exact .inl resolved
  · exact .inr ⟨pending, by rw [next]⟩
  · exact .inr ⟨pending, by rw [next, (b.advance_spec c).1]⟩

structure Tallied (s : Course) : Prop where
  within : s.batch.inFlight ≤ s.batch.tracker.ceiling
  counted : s.batch.cycles ≤ s.results.length
  admitted : s.handed.length ≤ s.batch.tracker.ceiling * s.batch.cycles
  submitted : (s.results.map (·.submitted)).sum = s.handed.length
  resolved : (s.results.map (·.resolved)).sum =
    s.batch.ledger.successCount + s.batch.ledger.failureCount

theorem tallied_start (p : Publisher) (input : Input) (client : Client) :
    Tallied (Course.start p input client) := by
  have silent : (Course.start p input client).handed = [] := by
    rw [Course.handed, Course.calls, Course.start, client.callsFrom_size]
    rfl
  constructor
  · exact Nat.zero_le _
  · exact Nat.zero_le _
  · rw [silent]
    exact Nat.zero_le _
  · rw [silent]
    rfl
  · rfl

theorem tallied_cycle (s : Course) (tallied : Tallied s)
    (balances : s.batch.Balances s.client s.first) : Tallied (s.step .cycle) := by
  obtain ⟨room, slots, gained, handed⟩ := balances
  obtain ⟨within, counted, admitted, submitted, resolved⟩ := tallied
  have limit : (s.step .cycle).batch.tracker.ceiling = s.batch.tracker.ceiling :=
    s.batch.cycle_ceiling s.client
  have grown : (s.step .cycle).results = s.results ++ [(s.batch.cycle s.client).1] := rfl
  have more : (s.step .cycle).handed.length =
      s.handed.length + (s.batch.cycle s.client).1.submitted := handed
  constructor
  · rw [limit]
    change (s.batch.cycle s.client).2.1.inFlight ≤ _
    omega
  · rw [grown, List.length_append, List.length_singleton]
    change (s.batch.cycle s.client).2.1.cycles ≤ _
    rcases s.batch.cycle_counted s.client with ⟨_, still⟩ | ⟨_, next⟩
    · rw [still]
      exact Nat.le_succ_of_le counted
    · omega
  · rw [limit, more]
    change _ ≤ _ * (s.batch.cycle s.client).2.1.cycles
    rcases s.batch.cycle_counted s.client with ⟨_, still⟩ | ⟨_, next⟩
    · rw [still]
      exact admitted
    · rw [next, Nat.mul_succ]
      omega
  · rw [grown, more, List.map_append, List.sum_append, submitted]
    simp
  · rw [grown, List.map_append, List.sum_append, resolved]
    change _ = (s.batch.cycle s.client).2.1.ledger.successCount +
      (s.batch.cycle s.client).2.1.ledger.failureCount
    simpa using gained.symm

theorem tallied_event (s : Course) (tallied : Tallied s) (e : Tracker.Event) :
    Tallied (s.step (.event e)) := by
  obtain ⟨_, _, _, ceiling, held⟩ := s.batch.tracker.apply_frame e
  obtain ⟨within, counted, admitted, submitted, resolved⟩ := tallied
  refine ⟨?_, counted, ?_, submitted, resolved⟩
  · simp only [Course.step, Batch.inFlight, ceiling, held]
    exact within
  · simp only [Course.step, ceiling]
    exact admitted

-- A batch at a point of a course, with what the next cycle does there.
structure Balanced (p : Publisher) (s : Course) : Prop where
  ceiling : s.batch.tracker.ceiling = max p.settings.ceiling 1
  balances : s.batch.Balances s.client s.first
  tallied : Tallied s
  least : s.handed.length ⌈/⌉ s.batch.tracker.ceiling ≤ s.batch.cycles
  whole : s.batch.stage = .resolved → (s.results.map (·.resolved)).sum = s.batch.recordCount

theorem course_balances (p : Publisher) (input : Input) (client : Client) (moves : List Move)
    (within : ((Course.start p input client).run moves).batch.inFlight ≤
      ((Course.start p input client).run moves).batch.tracker.ceiling) :
    ((Course.start p input client).run moves).batch.Balances
      ((Course.start p input client).run moves).client
      ((Course.start p input client).run moves).first := by
  rcases read_cases p input.content with ⟨fault, read⟩ | ⟨records, parsed, nonempty⟩
  · have barren := barren_run input _ moves (barren_start p input client fault read)
    refine Batch.idle_balances _ _ _ ?_
    by_cases resolved : ((Course.start p input client).run moves).batch.stage = .resolved
    · exact .inl resolved
    · exact .inr (barren.pending resolved).1
  · obtain ⟨roster, rostered⟩ := rostered_run input client moves parsed nonempty
    exact rostered_balances input _ rostered within

theorem course_tallied (p : Publisher) (input : Input) (client : Client) (moves : List Move) :
    Tallied ((Course.start p input client).run moves) := by
  induction moves using List.reverseRecOn with
  | nil => exact tallied_start p input client
  | append_singleton moves m ih =>
    rw [Course.run_concat]
    cases m with
    | event e => exact tallied_event _ ih e
    | cycle => exact tallied_cycle _ ih (course_balances p input client moves ih.within)

theorem resolved_whole (p : Publisher) (input : Input) (client : Client) (moves : List Move)
    (resolved : ((Course.start p input client).run moves).batch.stage = .resolved) :
    ((Course.start p input client).run moves).batch.ledger.successCount +
        ((Course.start p input client).run moves).batch.ledger.failureCount =
      ((Course.start p input client).run moves).batch.recordCount := by
  rcases read_cases p input.content with ⟨fault, read⟩ | ⟨records, parsed, nonempty⟩
  · obtain ⟨_, ledger, count, _⟩ := barren_bare p input client moves fault read
    rw [ledger, count]
    rfl
  · obtain ⟨roster, rostered⟩ := rostered_run input client moves parsed nonempty
    have counted := mirrors_count rostered.mirrors
    obtain ⟨taken, idle⟩ := rostered.stage.mp resolved
    rw [taken, idle] at counted
    rw [rostered.count]
    simpa using counted

/-- No cycle admits more records than slots are free, and its report is what has changed. -/
theorem cycles_balance (p : Publisher) (input : Input) (client : Client) (moves : List Move) :
    Balanced p ((Course.start p input client).run moves) := by
  have tallied := course_tallied p input client moves
  have ceiling := course_ceiling p input client moves
  refine ⟨ceiling, course_balances p input client moves tallied.within, tallied, ?_, ?_⟩
  · have positive : 0 < ((Course.start p input client).run moves).batch.tracker.ceiling := by
      rw [ceiling]
      omega
    rw [ceilDiv_le_iff_le_mul positive]
    exact tallied.admitted
  · intro resolved
    rw [tallied.resolved]
    exact resolved_whole p input client moves resolved

end Courier
