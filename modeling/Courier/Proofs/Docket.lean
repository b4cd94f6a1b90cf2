import Courier.Proofs.Dialogue
import Mathlib.Data.List.Basic

set_option autoImplicit false

/- Dockets: what is seen of a tracker from outside. Records are offered, acknowledgments end, their
   tasks run and the queue is collected, in any order. A docket keeps every offer with its answer;
   what goes into the queue, and when, is told from these and the acknowledgments alone. -/
namespace Courier

structure Offer where
  record : Record
  result : Submission
  call? : Option Call

namespace Offer

def isAccepted (o : Offer) : Bool :=
  match o.result with
  | .accepted => true
  | _ => false

def isRefused (o : Offer) : Bool :=
  match o.call? with
  | some ⟨_, _, .refused _⟩ => true
  | _ => false

def isTaken (number : Nat) (o : Offer) : Bool :=
  match o.call? with
  | some ⟨n, _, .taken _⟩ => n == number
  | _ => false

def completion? (given : List (Nat × Signal)) (o : Offer) : Option Completion :=
  o.call?.bind fun call =>
    (call.outcome? given).map fun outcome => ⟨o.record, call.message.payload, outcome⟩

def Sound (format : Format) (o : Offer) : Prop :=
  match o.result with
  | .accepted => ∃ call, o.call? = some call ∧ call.isHanded = true ∧
    format.render o.record = .ok call.message.payload
  | .deferred r => r = o.record ∧ ∀ call, o.call? = some call → call.answer.isFull = true
  | .rejected r _ => r = o.record ∧ o.call? = none

end Offer

structure Docket where
  tracker : Tracker
  client : Client
  offers : List Offer := []
  -- Acknowledgments given to calls that had been made, in order.
  given : List (Nat × Signal) := []
  -- What went into the queue, with the number of the offer that it is for, in order.
  pushed : List (Nat × Completion) := []
  -- What each collection brought.
  polled : List (List Completion) := []

namespace Docket

inductive Act where
  | submit (r : Record)
  | poll
  | event (e : Tracker.Event)
deriving DecidableEq

def start (format : Format) (topic : Text) (properties : Attributes) (ceiling : Nat)
    (client : Client) : Docket :=
  { tracker := .new format topic properties ceiling, client }

def collected (s : Docket) : List Completion := s.polled.flatten

def returned (s : Docket) : List Nat := (s.pushed.take s.collected.length).map Prod.fst

def outstanding (s : Docket) : List Offer :=
  (s.offers.zipIdx.filter fun (o, k) => o.isAccepted && !s.returned.contains k).map Prod.fst

-- What a task that runs puts into the queue: the outcome of its call, when the acknowledgment has
-- ended and the task has not put it there before.
def arrival? (s : Docket) : Tracker.Event → Option (Nat × Completion)
  | .resolve _ _ => none
  | .run number => s.offers.zipIdx.findSome? fun (o, k) =>
    if o.isTaken number && !(s.pushed.map Prod.fst).contains k then
      (o.completion? s.given).map (Prod.mk k)
    else none

def step (s : Docket) : Act → Docket
  | .submit r =>
    let (result, tracker, client) := s.tracker.submit r s.client
    let offer : Offer := ⟨r, result, (client.callsFrom s.client.calls.size).head?⟩
    let refusal := if offer.isRefused then offer.completion? s.given else none
    { s with tracker := tracker, client := client, offers := s.offers ++ [offer],
             pushed := s.pushed ++ (refusal.map (Prod.mk s.offers.length)).toList }
  | .poll =>
    let (completions, tracker) := s.tracker.poll
    { s with tracker := tracker, polled := s.polled ++ [completions.toList] }
  | .event e =>
    { s with tracker := s.tracker.apply e,
             given := Course.noted s.given s.client.calls.size e,
             pushed := s.pushed ++ (s.arrival? e).toList }

def run (s : Docket) (acts : List Act) : Docket := acts.foldl step s

def allows (s : Docket) : Act → Bool
  | .submit r => !s.tracker.inFlight.contains r.ordinal
  | _ => true

-- No ordinal is offered while it is in flight.
def orderly (s : Docket) : List Act → Bool
  | [] => true
  | act :: acts => s.allows act && (s.step act).orderly acts

def Sent (s : Docket) (k : Nat) (r : Record) (call : Call) : Prop :=
  s.offers[k]? = some ⟨r, .accepted, some call⟩

-- What a tracker holds, told by the docket.
structure TrackerDocketed (s : Docket) : Prop where
  sound : ∀ o ∈ s.offers, o.Sound s.tracker.format
  numbered : ∀ k r call, s.Sent k r call → call.number < s.client.calls.size
  distinct : ∀ k k' r r' call call', s.Sent k r call → s.Sent k' r' call' →
    call.number = call'.number → k = k'
  known : ∀ x ∈ s.given, x.1 < s.client.calls.size
  own : ∀ k c, (k, c) ∈ s.pushed → ∃ call, s.Sent k c.record call ∧
    call.message.payload = c.payload ∧ call.outcome? s.given = some c.outcome
  once : (s.pushed.map Prod.fst).Nodup
  counted : s.collected.length ≤ s.pushed.length
  collected : s.collected = (s.pushed.take s.collected.length).map Prod.snd
  queue : s.tracker.finished.toList =
    (s.pushed.drop s.collected.length).map fun x => (x.2.record.ordinal, x.2.outcome)
  held : ∀ (i : Nat) (f : InFlight), s.tracker.inFlight[i]? = some f ↔
    ∃ k call, s.Sent k f.record call ∧ f.record.ordinal = i ∧ call.message.payload = f.payload ∧
      k ∉ s.returned
  alone : ∀ k k' r r' call call', s.Sent k r call → s.Sent k' r' call' → k ∉ s.returned →
    k' ∉ s.returned → r.ordinal = r'.ordinal → k = k'
  awaits : ∀ (n i : Nat) (signal : Option Signal), s.tracker.awaited[n]? = some ⟨i, signal⟩ ↔
    ∃ k r call, s.Sent k r call ∧ call.number = n ∧ r.ordinal = i ∧
      (∃ early, call.answer = .taken early) ∧ call.signal? s.given = signal ∧
      k ∉ s.pushed.map Prod.fst

variable {s : Docket}

theorem docketed_start (format : Format) (topic : Text) (properties : Attributes) (ceiling : Nat)
    (client : Client) : TrackerDocketed (start format topic properties ceiling client) := by
  constructor
  · simp [start]
  · simp [start, Sent]
  · simp [start, Sent]
  · simp [start]
  · simp [start]
  · exact List.nodup_nil
  · exact Nat.le_refl 0
  · simp [start, Docket.collected]
  · simp [start, Tracker.new]
  · simp [start, Tracker.new, Sent]
  · simp [start, Sent]
  · simp [start, Tracker.new, Sent]

theorem sent_concat (offers : List Offer) (o : Offer) (k : Nat) (r : Record) (call : Call) :
    (offers ++ [o])[k]? = some ⟨r, .accepted, some call⟩ ↔
      offers[k]? = some ⟨r, .accepted, some call⟩ ∨
        (k = offers.length ∧ o = ⟨r, .accepted, some call⟩) := by
  by_cases last : k = offers.length
  · subst last
    simp
  · by_cases before : k < offers.length
    · rw [List.getElem?_append_left before]
      simp [last]
    · rw [List.getElem?_eq_none (by simp; omega), List.getElem?_eq_none (by omega)]
      simp [last]

theorem sent_within (k : Nat) (r : Record) (call : Call) (sent : s.Sent k r call) :
    k < s.offers.length := (List.getElem?_eq_some_iff.mp sent).1

theorem pushed_within (docketed : TrackerDocketed s) (k : Nat)
    (pushed : k ∈ s.pushed.map Prod.fst) : k < s.offers.length := by
  obtain ⟨⟨k, c⟩, member, rfl⟩ := List.mem_map.mp pushed
  obtain ⟨call, sent, _⟩ := docketed.own k c member
  exact sent_within k c.record call sent

theorem returned_pushed (k : Nat) (returned : k ∈ s.returned) : k ∈ s.pushed.map Prod.fst := by
  obtain ⟨x, member, rfl⟩ := List.mem_map.mp returned
  exact List.mem_map_of_mem (List.mem_of_mem_take member)

theorem message_payload (t : Tracker) (r : Record) (payload : Bytes) :
    (t.message r payload).payload = payload := rfl

def nextCall (s : Docket) (r : Record) (payload : Bytes) : Call :=
  ⟨s.client.calls.size, s.tracker.message r payload,
    s.client.answer s.client.calls.size (s.tracker.message r payload)⟩

def accept (s : Docket) (r : Record) (payload : Bytes) (tracker : Tracker)
    (pushed : List (Nat × Completion)) : Docket :=
  { s with tracker := tracker, client := (s.client.publish (s.tracker.message r payload)).2,
           offers := s.offers ++ [⟨r, .accepted, some (s.nextCall r payload)⟩],
           pushed := s.pushed ++ pushed }

theorem step_submit (s : Docket) (r : Record) :
    (∃ client o, s.step (.submit r) = { s with client := client, offers := s.offers ++ [o] } ∧
      o.Sound s.tracker.format ∧ o.isAccepted = false ∧
      s.client.calls.size ≤ client.calls.size) ∨
    (∃ payload report, s.tracker.format.render r = .ok payload ∧
      (s.nextCall r payload).answer = .refused report ∧
      s.step (.submit r) = s.accept r payload
        ((s.tracker.hold r payload).finish r.ordinal (.failed report))
        [(s.offers.length, ⟨r, payload, .failed report⟩)]) ∨
    (∃ payload signal, s.tracker.format.render r = .ok payload ∧
      (s.nextCall r payload).answer = .taken signal ∧
      s.step (.submit r) = s.accept r payload
        ((s.tracker.hold r payload).await s.client.calls.size r.ordinal signal) []) := by
  have silent := s.client.callsFrom_size
  have spoken (m : Message) := s.client.callsFrom_push m s.client.calls.size (Nat.le_refl _)
  rcases s.tracker.submit_cases r s.client with ⟨_, next⟩ | ⟨_, fault, _, next⟩ |
    ⟨_, payload, rendered, ⟨note, full, next⟩ | ⟨report, refused, next⟩ | ⟨signal, taken, next⟩⟩
  · refine .inl ⟨s.client, ⟨r, .deferred r, none⟩, ?_, ⟨rfl, by simp⟩, rfl, Nat.le_refl _⟩
    simp [step, next, silent, Offer.isRefused]
  · refine .inl ⟨s.client, ⟨r, .rejected r fault, none⟩, ?_, ⟨rfl, rfl⟩, rfl, Nat.le_refl _⟩
    simp [step, next, silent, Offer.isRefused]
  · refine .inl ⟨(s.client.publish (s.tracker.message r payload)).2,
      ⟨r, .deferred r, some (s.nextCall r payload)⟩, ?_, ⟨rfl, ?_⟩, rfl, ?_⟩
    · simp [step, next, spoken, silent, Offer.isRefused, nextCall, full]
    · simp [nextCall, full, Answer.isFull]
    · simp [Client.publish]
  · refine .inr (.inl ⟨payload, report, rendered, refused, ?_⟩)
    simp [step, next, spoken, silent, Offer.isRefused, Offer.completion?, Call.outcome?, nextCall,
      refused, accept, message_payload]
  · refine .inr (.inr ⟨payload, signal, rendered, taken, ?_⟩)
    simp [step, next, spoken, silent, Offer.isRefused, nextCall, taken, accept]

theorem docketed_declined (docketed : TrackerDocketed s) (client : Client) (o : Offer)
    (sound : o.Sound s.tracker.format) (declined : o.isAccepted = false)
    (grown : s.client.calls.size ≤ client.calls.size) :
    TrackerDocketed { s with client := client, offers := s.offers ++ [o] } := by
  have same (k : Nat) (r : Record) (call : Call) :
      Sent { s with client := client, offers := s.offers ++ [o] } k r call ↔ s.Sent k r call := by
    refine (sent_concat s.offers o k r call).trans ⟨fun sent => ?_, .inl⟩
    rcases sent with before | ⟨_, rfl⟩
    · exact before
    · cases declined
  constructor
  · intro other member
    rcases List.mem_append.mp member with old | fresh
    · exact docketed.sound other old
    · rw [List.mem_singleton.mp fresh]
      exact sound
  · intro k r call sent
    exact Nat.lt_of_lt_of_le (docketed.numbered k r call ((same k r call).mp sent)) grown
  · simp only [same]
    exact docketed.distinct
  · intro x member
    exact Nat.lt_of_lt_of_le (docketed.known x member) grown
  · simp only [same]
    exact docketed.own
  · exact docketed.once
  · exact docketed.counted
  · exact docketed.collected
  · exact docketed.queue
  · simp only [same]
    exact docketed.held
  · simp only [same]
    exact docketed.alone
  · simp only [same]
    exact docketed.awaits

theorem sent_accept (s : Docket) (r : Record) (payload : Bytes) (tracker : Tracker)
    (pushed : List (Nat × Completion)) (k : Nat) (r' : Record) (call : Call) :
    (s.accept r payload tracker pushed).Sent k r' call ↔
      s.Sent k r' call ∨ (k = s.offers.length ∧ r' = r ∧ call = s.nextCall r payload) := by
  refine (sent_concat s.offers _ k r' call).trans (or_congr Iff.rfl (and_congr Iff.rfl ?_))
  simp [eq_comm]

theorem returned_grown {d : Docket} (docketed : TrackerDocketed s) (more : List (Nat × Completion))
    (pushed : d.pushed = s.pushed ++ more) (polled : d.polled = s.polled) :
    d.returned = s.returned := by
  have collected : d.collected = s.collected := by rw [Docket.collected, polled, Docket.collected]
  rw [returned, collected, pushed, List.take_append_of_le_length docketed.counted, returned]

theorem queue_grown {d : Docket} (docketed : TrackerDocketed s) (more : List (Nat × Completion))
    (pushed : d.pushed = s.pushed ++ more) (polled : d.polled = s.polled)
    (queue : d.tracker.finished.toList = s.tracker.finished.toList ++
      more.map fun x => (x.2.record.ordinal, x.2.outcome)) :
    d.collected.length ≤ d.pushed.length ∧
      d.collected = (d.pushed.take d.collected.length).map Prod.snd ∧
      d.tracker.finished.toList =
        (d.pushed.drop d.collected.length).map fun x => (x.2.record.ordinal, x.2.outcome) := by
  have counted := docketed.counted
  have collected : d.collected = s.collected := by rw [Docket.collected, polled, Docket.collected]
  rw [collected, pushed, queue, List.take_append_of_le_length counted,
    List.drop_append_of_le_length counted, List.map_append, ← docketed.queue]
  refine ⟨?_, docketed.collected, rfl⟩
  rw [List.length_append]
  omega

theorem returned_accept (docketed : TrackerDocketed s) (r : Record) (payload : Bytes)
    (tracker : Tracker) (pushed : List (Nat × Completion)) :
    (s.accept r payload tracker pushed).returned = s.returned :=
  returned_grown docketed pushed rfl rfl

theorem free_returned (docketed : TrackerDocketed s) (ordinal : Nat)
    (free : s.tracker.inFlight[ordinal]? = none) (k : Nat) (r : Record) (call : Call)
    (sent : s.Sent k r call) (same : r.ordinal = ordinal) : k ∈ s.returned := by
  by_cases returned : k ∈ s.returned
  · exact returned
  · have held := (docketed.held ordinal ⟨r, call.message.payload⟩).mpr
      ⟨k, call, sent, same, rfl, returned⟩
    rw [free] at held
    cases held

theorem unpushed_next (docketed : TrackerDocketed s) : s.offers.length ∉ s.pushed.map Prod.fst := by
  intro member
  exact Nat.lt_irrefl _ (pushed_within docketed _ member)

theorem accept_distinct (docketed : TrackerDocketed s) (r : Record) (payload : Bytes)
    (tracker : Tracker) (pushed : List (Nat × Completion)) (k k' : Nat) (r₁ r₂ : Record)
    (call call' : Call)
    (here : (s.accept r payload tracker pushed).Sent k r₁ call)
    (there : (s.accept r payload tracker pushed).Sent k' r₂ call')
    (same : call.number = call'.number) : k = k' := by
  rcases (sent_accept s r payload tracker pushed k r₁ call).mp here with
    before | ⟨last, _, rfl⟩ <;>
  rcases (sent_accept s r payload tracker pushed k' r₂ call').mp there with
    before' | ⟨last', _, rfl⟩
  · exact docketed.distinct k k' r₁ r₂ call call' before before' same
  · have less := docketed.numbered k r₁ call before
    exact absurd same (Nat.ne_of_lt less)
  · have less := docketed.numbered k' r₂ call' before'
    exact absurd same.symm (Nat.ne_of_lt less)
  · rw [last, last']

theorem accept_alone (docketed : TrackerDocketed s) (r : Record) (payload : Bytes)
    (tracker : Tracker) (pushed : List (Nat × Completion))
    (free : s.tracker.inFlight[r.ordinal]? = none)
    (k k' : Nat) (r₁ r₂ : Record) (call call' : Call)
    (here : (s.accept r payload tracker pushed).Sent k r₁ call)
    (there : (s.accept r payload tracker pushed).Sent k' r₂ call')
    (out : k ∉ s.returned) (out' : k' ∉ s.returned) (same : r₁.ordinal = r₂.ordinal) :
    k = k' := by
  have spent := free_returned docketed r.ordinal free
  rcases (sent_accept s r payload tracker pushed k r₁ call).mp here with
    before | ⟨last, record, _⟩ <;>
  rcases (sent_accept s r payload tracker pushed k' r₂ call').mp there with
    before' | ⟨last', record', _⟩
  · exact docketed.alone k k' r₁ r₂ call call' before before' out out' same
  · exact absurd (spent k r₁ call before (record' ▸ same)) out
  · exact absurd (spent k' r₂ call' before' (record ▸ same.symm)) out'
  · rw [last, last']

theorem accept_held (docketed : TrackerDocketed s) (r : Record) (payload : Bytes)
    (tracker : Tracker) (pushed : List (Nat × Completion))
    (free : s.tracker.inFlight[r.ordinal]? = none) (i : Nat)
    (f : InFlight) : (s.tracker.inFlight.insert r.ordinal ⟨r, payload⟩)[i]? = some f ↔
      ∃ k call, (s.accept r payload tracker pushed).Sent k f.record call ∧ f.record.ordinal = i ∧
        call.message.payload = f.payload ∧ k ∉ s.returned := by
  have spent := free_returned docketed r.ordinal free
  simp only [sent_accept]
  rw [Std.ExtTreeMap.getElem?_insert]
  by_cases same : r.ordinal = i
  · rw [if_pos (by simpa [Nat.compare_eq_eq] using same)]
    constructor
    · intro found
      cases found
      exact ⟨_, _, .inr ⟨rfl, rfl, rfl⟩, same, rfl,
        fun member => unpushed_next docketed (returned_pushed _ member)⟩
    · rintro ⟨k, call, before | ⟨_, record, rfl⟩, ordinal, carried, out⟩
      · exact absurd (spent k f.record call before (ordinal.trans same.symm)) out
      · cases f
        cases record
        cases carried
        rfl
  · rw [if_neg (by simpa [Nat.compare_eq_eq] using same), docketed.held]
    constructor
    · rintro ⟨k, call, before, rest⟩
      exact ⟨k, call, .inl before, rest⟩
    · rintro ⟨k, call, before | ⟨_, record, _⟩, ordinal, rest⟩
      · exact ⟨k, call, before, ordinal, rest⟩
      · exact absurd (record ▸ ordinal) same

theorem accept_numbered (docketed : TrackerDocketed s) (r : Record) (payload : Bytes)
    (tracker : Tracker) (pushed : List (Nat × Completion)) (k : Nat) (r' : Record) (call : Call)
    (sent : (s.accept r payload tracker pushed).Sent k r' call) :
    call.number < (s.accept r payload tracker pushed).client.calls.size := by
  simp only [accept, Client.publish, Array.size_push]
  rcases (sent_accept s r payload tracker pushed k r' call).mp sent with before | ⟨_, _, rfl⟩
  · have less := docketed.numbered k r' call before
    omega
  · exact Nat.lt_succ_self _

theorem accept_own (docketed : TrackerDocketed s) (r : Record) (payload : Bytes)
    (tracker : Tracker) (pushed : List (Nat × Completion))
    (own : ∀ k c, (k, c) ∈ pushed → k = s.offers.length ∧ c.record = r ∧ c.payload = payload ∧
      (s.nextCall r payload).outcome? s.given = some c.outcome)
    (k : Nat) (c : Completion) (member : (k, c) ∈ (s.accept r payload tracker pushed).pushed) :
    ∃ call, (s.accept r payload tracker pushed).Sent k c.record call ∧
      call.message.payload = c.payload ∧ call.outcome? s.given = some c.outcome := by
  have sent := sent_accept s r payload tracker pushed
  rcases List.mem_append.mp member with old | added
  · obtain ⟨call, before, rest⟩ := docketed.own k c old
    exact ⟨call, (sent k c.record call).mpr (.inl before), rest⟩
  · obtain ⟨last, record, same, outcome⟩ := own k c added
    exact ⟨_, (sent k c.record _).mpr (.inr ⟨last, record, rfl⟩), same.symm, outcome⟩

theorem docketed_accept (docketed : TrackerDocketed s) (r : Record) (payload : Bytes)
    (tracker : Tracker) (pushed : List (Nat × Completion))
    (free : s.tracker.inFlight[r.ordinal]? = none)
    (rendered : s.tracker.format.render r = .ok payload)
    (handed : (s.nextCall r payload).isHanded = true)
    (format : tracker.format = s.tracker.format)
    (slots : tracker.inFlight = s.tracker.inFlight.insert r.ordinal ⟨r, payload⟩)
    (own : ∀ k c, (k, c) ∈ pushed → k = s.offers.length ∧ c.record = r ∧ c.payload = payload ∧
      (s.nextCall r payload).outcome? s.given = some c.outcome)
    (once : (pushed.map Prod.fst).Nodup)
    (queue : tracker.finished.toList = s.tracker.finished.toList ++
      pushed.map fun x => (x.2.record.ordinal, x.2.outcome))
    (awaits : ∀ (n i : Nat) (signal : Option Signal), tracker.awaited[n]? = some ⟨i, signal⟩ ↔
      ∃ k r' call, (s.accept r payload tracker pushed).Sent k r' call ∧ call.number = n ∧
        r'.ordinal = i ∧ (∃ early, call.answer = .taken early) ∧
        call.signal? s.given = signal ∧ k ∉ (s.pushed ++ pushed).map Prod.fst) :
    TrackerDocketed (s.accept r payload tracker pushed) := by
  have returned := returned_accept docketed r payload tracker pushed
  obtain ⟨counted, collected, queued⟩ :=
    queue_grown (d := s.accept r payload tracker pushed) docketed pushed rfl rfl queue
  constructor
  · intro o member
    simp only [accept, format]
    rcases List.mem_append.mp member with old | added
    · exact docketed.sound o old
    · rw [List.mem_singleton.mp added]
      exact ⟨s.nextCall r payload, rfl, handed, rendered⟩
  · exact accept_numbered docketed r payload tracker pushed
  · exact accept_distinct docketed r payload tracker pushed
  · intro x member
    simp only [accept, Client.publish, Array.size_push]
    exact Nat.lt_succ_of_lt (docketed.known x member)
  · exact accept_own docketed r payload tracker pushed own
  · rw [accept, List.map_append]
    refine List.nodup_append.mpr ⟨docketed.once, once, fun k before k' added same => ?_⟩
    obtain ⟨⟨j, c⟩, member, rfl⟩ := List.mem_map.mp added
    rw [same, (own j c member).1] at before
    exact unpushed_next docketed before
  · exact counted
  · exact collected
  · exact queued
  · rw [returned, show (s.accept r payload tracker pushed).tracker.inFlight = _ from slots]
    exact accept_held docketed r payload tracker pushed free
  · rw [returned]
    exact accept_alone docketed r payload tracker pushed free
  · exact awaits

theorem docketed_refuse (docketed : TrackerDocketed s) (r : Record) (payload : Bytes)
    (report : Report) (free : s.tracker.inFlight[r.ordinal]? = none)
    (rendered : s.tracker.format.render r = .ok payload)
    (refused : (s.nextCall r payload).answer = .refused report) :
    TrackerDocketed (s.accept r payload
      ((s.tracker.hold r payload).finish r.ordinal (.failed report))
      [(s.offers.length, ⟨r, payload, .failed report⟩)]) := by
  refine docketed_accept docketed r payload _ _ free rendered ?_ rfl rfl ?_ (by simp) ?_ ?_
  · simp [Call.isHanded, refused, Answer.isFull]
  · intro k c member
    cases List.mem_singleton.mp member
    exact ⟨rfl, rfl, rfl, by simp [Call.outcome?, refused]⟩
  · simp [Tracker.finish, Tracker.hold]
  · intro n i signal
    refine (docketed.awaits n i signal).trans (exists_congr fun k => exists_congr fun r' =>
      exists_congr fun call => ?_)
    rw [sent_accept, List.map_append, List.mem_append]
    constructor
    · rintro ⟨before, number, ordinal, taken, ended, out⟩
      have within := sent_within k r' call before
      refine ⟨.inl before, number, ordinal, taken, ended, ?_⟩
      rintro (pushed | last)
      · exact out pushed
      · rw [List.map_singleton, List.mem_singleton] at last
        omega
    · rintro ⟨before | ⟨_, _, rfl⟩, number, ordinal, taken, ended, out⟩
      · exact ⟨before, number, ordinal, taken, ended, fun member => out (.inl member)⟩
      · obtain ⟨early, taken⟩ := taken
        rw [refused] at taken
        cases taken

theorem docketed_take (docketed : TrackerDocketed s) (r : Record) (payload : Bytes)
    (signal : Option Signal) (free : s.tracker.inFlight[r.ordinal]? = none)
    (rendered : s.tracker.format.render r = .ok payload)
    (taken : (s.nextCall r payload).answer = .taken signal) :
    TrackerDocketed (s.accept r payload
      ((s.tracker.hold r payload).await s.client.calls.size r.ordinal signal) []) := by
  have heard : (s.nextCall r payload).signal? s.given = signal := by
    have unheard : s.given.lookup s.client.calls.size = none := by
      rw [List.lookup_eq_none_iff]
      intro x member
      have less := docketed.known x member
      simp only [bne_iff_ne]
      omega
    rw [Call.signal?, taken]
    cases signal with
    | none => exact unheard
    | some signal => rfl
  refine docketed_accept docketed r payload _ _ free rendered ?_ rfl rfl (by simp) (by simp) ?_ ?_
  · simp [Call.isHanded, taken, Answer.isFull]
  · simp [Tracker.await, Tracker.hold]
  · intro n i ended
    simp only [sent_accept, List.append_nil, Tracker.await, Tracker.hold,
      Std.ExtTreeMap.getElem?_insert]
    by_cases same : s.client.calls.size = n
    · rw [if_pos (by simpa [Nat.compare_eq_eq] using same)]
      constructor
      · intro found
        cases found
        refine ⟨_, r, _, .inr ⟨rfl, rfl, rfl⟩, same, rfl, ⟨signal, taken⟩, heard, ?_⟩
        exact unpushed_next docketed
      · rintro ⟨k, r', call, before | ⟨_, rfl, rfl⟩, number, rfl, _, rfl, _⟩
        · have less := docketed.numbered k r' call before
          omega
        · rw [heard]
    · rw [if_neg (by simpa [Nat.compare_eq_eq] using same), docketed.awaits]
      constructor
      · rintro ⟨k, r', call, before, rest⟩
        exact ⟨k, r', call, .inl before, rest⟩
      · rintro ⟨k, r', call, before | ⟨_, _, rfl⟩, number, rest⟩
        · exact ⟨k, r', call, before, number, rest⟩
        · exact absurd number same

theorem docketed_submit (docketed : TrackerDocketed s) (r : Record)
    (allowed : s.allows (.submit r) = true) :
    TrackerDocketed (s.step (.submit r)) := by
  have free : s.tracker.inFlight[r.ordinal]? = none := by
    rw [allows, Bool.not_eq_true', Std.ExtTreeMap.contains_eq_isSome_getElem?] at allowed
    exact Option.isSome_eq_false_iff.mp allowed |> Option.isNone_iff_eq_none.mp
  rcases s.step_submit r with ⟨client, o, next, sound, declined, grown⟩ |
    ⟨payload, report, rendered, refused, next⟩ | ⟨payload, signal, rendered, taken, next⟩
  · rw [next]
    exact docketed_declined docketed client o sound declined grown
  · rw [next]
    exact docketed_refuse docketed r payload report free rendered refused
  · rw [next]
    exact docketed_take docketed r payload signal free rendered taken

theorem signal_noted (given : List (Nat × Signal)) (made number : Nat) (signal : Signal)
    (call : Call) (early : Option Signal) (taken : call.answer = .taken early)
    (seen : call.number < made) :
    call.signal? (Course.noted given made (.resolve number signal)) =
      if call.number = number then (call.signal? given).or (some signal)
      else call.signal? given := by
  by_cases known : number < made
  · rw [Course.noted, if_pos known, call.signal_later, taken]
    cases early with
    | some s => simp [Call.signal?, taken]
    | none =>
      by_cases same : call.number = number
      · simp [same]
      · simp [same]
  · rw [Course.noted, if_neg known, if_neg (by omega)]

theorem sent_same (k : Nat) (r r' : Record) (call call' : Call) (sent : s.Sent k r call)
    (sent' : s.Sent k r' call') : r = r' ∧ call = call' := by
  rw [Sent, sent] at sent'
  cases sent'
  exact ⟨rfl, rfl⟩

theorem resolve_awaits (docketed : TrackerDocketed s) (number : Nat) (signal : Signal) (n i : Nat)
    (ended : Option Signal) :
    (s.tracker.apply (.resolve number signal)).awaited[n]? = some ⟨i, ended⟩ ↔
      ∃ k r call, s.Sent k r call ∧ call.number = n ∧ r.ordinal = i ∧
        (∃ early, call.answer = .taken early) ∧
        call.signal? (Course.noted s.given s.client.calls.size (.resolve number signal)) = ended ∧
        k ∉ s.pushed.map Prod.fst := by
  have later (k : Nat) (r : Record) (call : Call) (sent : s.Sent k r call)
      (taken : ∃ early, call.answer = .taken early) :=
    taken.elim fun early taken => signal_noted s.given s.client.calls.size number signal call
      early taken (docketed.numbered k r call sent)
  rcases s.tracker.apply_resolve_cases number signal with ⟨ordinal, here, next⟩ | ⟨nowhere, next⟩
  · obtain ⟨k, r, call, sent, numbered, rfl, taken, open', out⟩ :=
      (docketed.awaits number ordinal none).mp here
    rw [next, Tracker.await, Std.ExtTreeMap.getElem?_insert]
    by_cases same : number = n
    · rw [if_pos (by simpa [Nat.compare_eq_eq] using same)]
      subst n
      constructor
      · intro found
        cases found
        refine ⟨k, r, call, sent, numbered, rfl, taken, ?_, out⟩
        rw [later k r call sent taken, if_pos numbered, open']
        rfl
      · rintro ⟨k', r', call', sent', numbered', rfl, taken', rfl, _⟩
        have one := docketed.distinct k k' r r' call call' sent sent'
          (numbered.trans numbered'.symm)
        subst k'
        obtain ⟨rfl, rfl⟩ := sent_same k r r' call call' sent sent'
        rw [later k r call sent taken, if_pos numbered, open']
        rfl
    · rw [if_neg (by simpa [Nat.compare_eq_eq] using same), docketed.awaits]
      refine exists_congr fun k => exists_congr fun r => exists_congr fun call => ?_
      refine and_congr_right fun sent => and_congr_right fun numbered => and_congr_right fun _ =>
        and_congr_right fun taken => ?_
      rw [later k r call sent taken, if_neg (by omega)]
  · rw [next, docketed.awaits]
    refine exists_congr fun k => exists_congr fun r => exists_congr fun call => ?_
    refine and_congr_right fun sent => and_congr_right fun numbered => and_congr_right fun _ =>
      and_congr_right fun taken => ?_
    rw [later k r call sent taken, and_congr_left_iff]
    intro out
    by_cases same : call.number = number
    · rw [if_pos same]
      cases heard : call.signal? s.given with
      | some signal => rfl
      | none =>
        exact absurd ((docketed.awaits number r.ordinal none).mpr
          ⟨k, r, call, sent, same, rfl, taken, heard, out⟩) (nowhere r.ordinal)
    · rw [if_neg same]

theorem noted_known (docketed : TrackerDocketed s) (number : Nat) (signal : Signal)
    (x : Nat × Signal)
    (member : x ∈ Course.noted s.given s.client.calls.size (.resolve number signal)) :
    x.1 < s.client.calls.size := by
  by_cases made : number < s.client.calls.size
  · rw [Course.noted, if_pos made] at member
    rcases List.mem_append.mp member with old | fresh
    · exact docketed.known x old
    · rw [List.mem_singleton.mp fresh]
      exact made
  · rw [Course.noted, if_neg made] at member
    exact docketed.known x member

theorem docketed_resolve (docketed : TrackerDocketed s) (number : Nat) (signal : Signal) :
    TrackerDocketed (s.step (.event (.resolve number signal))) := by
  obtain ⟨format, _, _, _, slots⟩ := s.tracker.apply_frame (.resolve number signal)
  have finished : (s.tracker.apply (.resolve number signal)).finished = s.tracker.finished := by
    rcases s.tracker.apply_resolve_cases number signal with ⟨ordinal, _, next⟩ | ⟨_, next⟩
    · rw [next]
      rfl
    · rw [next]
  have unpushed : (s.step (.event (.resolve number signal))).pushed = s.pushed ++ [] := by
    simp [step, arrival?]
  have back := returned_grown docketed [] unpushed rfl
  obtain ⟨counted, collected, queued⟩ := queue_grown docketed [] unpushed rfl
    (by simp [step, finished])
  rw [List.append_nil] at unpushed
  constructor
  · intro o member
    simp only [step, format]
    exact docketed.sound o member
  · exact docketed.numbered
  · exact docketed.distinct
  · exact noted_known docketed number signal
  · intro k c member
    rw [unpushed] at member
    obtain ⟨call, sent, payload, outcome⟩ := docketed.own k c member
    refine ⟨call, sent, payload, ?_⟩
    simp only [step, Course.noted]
    split
    · exact call.outcome_stays s.given number signal c.outcome outcome
    · exact outcome
  · rw [unpushed]
    exact docketed.once
  · exact counted
  · exact collected
  · exact queued
  · intro i f
    rw [back]
    exact slots ▸ docketed.held i f
  · rw [back]
    exact docketed.alone
  · rw [unpushed]
    exact resolve_awaits docketed number signal

theorem taken_sent (docketed : TrackerDocketed s) (number k : Nat) (o : Offer)
    (found : s.offers[k]? = some o) (taken : o.isTaken number = true) :
    ∃ r call, s.Sent k r call ∧ call.number = number ∧ (∃ early, call.answer = .taken early) ∧
      o = ⟨r, .accepted, some call⟩ := by
  have sound := docketed.sound o (List.mem_of_getElem? found)
  obtain ⟨r, result, called⟩ := o
  unfold Offer.isTaken at taken
  split at taken
  · rename_i n m early same
    subst same
    cases result with
    | accepted => exact ⟨r, _, found, beq_iff_eq.mp taken, ⟨early, rfl⟩, rfl⟩
    | deferred back =>
      have full := sound.2 _ rfl
      simp [Answer.isFull] at full
    | rejected back fault => cases sound.2
  · cases taken

theorem arrival_due (docketed : TrackerDocketed s) (number k : Nat) (r : Record) (call : Call)
    (signal : Signal) (sent : s.Sent k r call) (numbered : call.number = number)
    (taken : ∃ early, call.answer = .taken early) (ended : call.signal? s.given = some signal)
    (out : k ∉ s.pushed.map Prod.fst) :
    s.arrival? (.run number) = some (k, ⟨r, call.message.payload, signal.outcome⟩) := by
  obtain ⟨early, taken⟩ := taken
  have due : (Offer.mk r .accepted (some call)).completion? s.given =
      some ⟨r, call.message.payload, signal.outcome⟩ := by
    simp [Offer.completion?, Call.outcome?, taken, ended]
  have asked : (Offer.mk r .accepted (some call)).isTaken number = true := by
    obtain ⟨n, m, answer⟩ := call
    cases taken
    exact beq_iff_eq.mpr numbered
  cases arrived : s.arrival? (.run number) with
  | none =>
    have nothing := List.findSome?_eq_none_iff.mp arrived (_, k)
      (List.mk_mem_zipIdx_iff_getElem?.mpr sent)
    simp only [asked, due, Bool.true_and] at nothing
    simp [out] at nothing
  | some x =>
    obtain ⟨⟨o, j⟩, member, here⟩ := List.exists_of_findSome?_eq_some arrived
    have found := List.mk_mem_zipIdx_iff_getElem?.mp member
    rw [Option.ite_none_right_eq_some, Bool.and_eq_true] at here
    obtain ⟨⟨asked', _⟩, made⟩ := here
    obtain ⟨r', call', sent', numbered', _, rfl⟩ := taken_sent docketed number j o found asked'
    have one := docketed.distinct k j r r' call call' sent sent' (numbered.trans numbered'.symm)
    subst one
    obtain ⟨rfl, rfl⟩ := sent_same k r r' call call' sent sent'
    rw [due] at made
    exact made.symm

theorem arrival_none (docketed : TrackerDocketed s) (number : Nat)
    (nowhere : ∀ ordinal signal, s.tracker.awaited[number]? ≠ some ⟨ordinal, some signal⟩) :
    s.arrival? (.run number) = none := by
  rw [arrival?, List.findSome?_eq_none_iff]
  rintro ⟨o, k⟩ member
  have found := List.mk_mem_zipIdx_iff_getElem?.mp member
  rw [ite_eq_right_iff, Bool.and_eq_true]
  rintro ⟨asked, out⟩
  obtain ⟨r, call, sent, numbered, ⟨early, taken⟩, rfl⟩ :=
    taken_sent docketed number k o found asked
  cases heard : call.signal? s.given with
  | none => simp [Offer.completion?, Call.outcome?, taken, heard]
  | some signal =>
    exact absurd ((docketed.awaits number r.ordinal (some signal)).mpr
      ⟨k, r, call, sent, numbered, rfl, ⟨early, taken⟩, heard, by simpa using out⟩)
      (nowhere r.ordinal signal)

theorem finish_awaits (docketed : TrackerDocketed s) (k : Nat) (r : Record) (call : Call)
    (sent : s.Sent k r call) (n i : Nat) (heard : Option Signal) :
    (s.tracker.awaited.erase call.number)[n]? = some ⟨i, heard⟩ ↔
      ∃ k' r' call', s.Sent k' r' call' ∧ call'.number = n ∧ r'.ordinal = i ∧
        (∃ early, call'.answer = .taken early) ∧ call'.signal? s.given = heard ∧
        ¬ (k' ∈ s.pushed.map Prod.fst ∨ k' = k) := by
  rw [Std.ExtTreeMap.getElem?_erase]
  by_cases same : call.number = n
  · rw [if_pos (by simpa [Nat.compare_eq_eq] using same)]
    subst n
    constructor
    · intro found
      cases found
    · rintro ⟨k', r', call', sent', numbered', _, _, _, out'⟩
      have one := docketed.distinct k k' r r' call call' sent sent' numbered'.symm
      exact absurd (.inr one.symm) out'
  · rw [if_neg (by simpa [Nat.compare_eq_eq] using same), docketed.awaits]
    refine exists_congr fun k' => exists_congr fun r' => exists_congr fun call' => ?_
    refine and_congr_right fun sent' => and_congr_right fun numbered' =>
      and_congr_right fun _ => and_congr_right fun _ => and_congr_right fun _ =>
        not_congr ⟨.inl, ?_⟩
    rintro (before | rfl)
    · exact before
    · obtain ⟨_, rfl⟩ := sent_same k' r r' call call' sent sent'
      exact absurd numbered' same

theorem finish_own (docketed : TrackerDocketed s) (k : Nat) (r : Record) (call : Call)
    (signal : Signal) (sent : s.Sent k r call) (taken : ∃ early, call.answer = .taken early)
    (ended : call.signal? s.given = some signal) (j : Nat) (c : Completion)
    (member : (j, c) ∈ s.pushed ++ [(k, ⟨r, call.message.payload, signal.outcome⟩)]) :
    ∃ call, s.Sent j c.record call ∧ call.message.payload = c.payload ∧
      call.outcome? s.given = some c.outcome := by
  rcases List.mem_append.mp member with old | fresh
  · exact docketed.own j c old
  · cases List.mem_singleton.mp fresh
    obtain ⟨early, taken⟩ := taken
    exact ⟨call, sent, rfl, by simp [Call.outcome?, taken, ended]⟩

theorem docketed_ended (docketed : TrackerDocketed s) (number k : Nat) (r : Record) (call : Call)
    (signal : Signal) (sent : s.Sent k r call) (numbered : call.number = number)
    (taken : ∃ early, call.answer = .taken early) (ended : call.signal? s.given = some signal)
    (out : k ∉ s.pushed.map Prod.fst)
    (next : s.tracker.apply (.run number) =
      { s.tracker with awaited := s.tracker.awaited.erase number }.finish r.ordinal
        signal.outcome) :
    TrackerDocketed (s.step (.event (.run number))) := by
  have pushed : (s.step (.event (.run number))).pushed =
      s.pushed ++ [(k, ⟨r, call.message.payload, signal.outcome⟩)] := by
    simp [step, arrival_due docketed number k r call signal sent numbered taken ended out]
  have back := returned_grown docketed _ pushed rfl
  have tracker : (s.step (.event (.run number))).tracker =
    { s.tracker with awaited := s.tracker.awaited.erase number }.finish r.ordinal
      signal.outcome := next
  obtain ⟨counted, collected, queued⟩ := queue_grown docketed _ pushed rfl
    (by simp [tracker, Tracker.finish])
  constructor
  · rw [tracker]
    exact docketed.sound
  · exact docketed.numbered
  · exact docketed.distinct
  · exact docketed.known
  · rw [pushed]
    exact finish_own docketed k r call signal sent taken ended
  · rw [pushed, List.map_append]
    refine List.nodup_append.mpr ⟨docketed.once, by simp, fun j member j' last same => ?_⟩
    rw [same, List.mem_singleton.mp last] at member
    exact out member
  · exact counted
  · exact collected
  · exact queued
  · rw [tracker, back]
    exact docketed.held
  · rw [back]
    exact docketed.alone
  · intro n i heard
    rw [tracker, pushed, ← numbered]
    simp only [Tracker.finish, List.map_append, List.map_singleton, List.mem_append,
      List.mem_singleton]
    exact finish_awaits docketed k r call sent n i heard

theorem docketed_finish (docketed : TrackerDocketed s) (number : Nat) :
    TrackerDocketed (s.step (.event (.run number))) := by
  rcases s.tracker.apply_run_cases number with ⟨ordinal, signal, here, next⟩ | ⟨nowhere, next⟩
  · obtain ⟨k, r, call, sent, numbered, rfl, taken, ended, out⟩ :=
      (docketed.awaits number ordinal (some signal)).mp here
    exact docketed_ended docketed number k r call signal sent numbered taken ended out next
  · have idle : s.step (.event (.run number)) = s := by
      simp [step, arrival_none docketed number nowhere, next, Course.noted]
    rw [idle]
    exact docketed

theorem waiting_sent (docketed : TrackerDocketed s) (k : Nat) (c : Completion)
    (waiting : (k, c) ∈ s.pushed.drop s.collected.length) :
    ∃ call, s.Sent k c.record call ∧ call.message.payload = c.payload ∧ k ∉ s.returned := by
  obtain ⟨call, sent, payload, _⟩ := docketed.own k c (List.mem_of_mem_drop waiting)
  refine ⟨call, sent, payload, ?_⟩
  have once := docketed.once
  rw [← List.take_append_drop s.collected.length s.pushed, List.map_append,
    List.nodup_append] at once
  intro returned
  exact once.2.2 k returned k (List.mem_map_of_mem waiting) rfl

theorem waiting_once (docketed : TrackerDocketed s) :
    (s.tracker.finished.toList.map Prod.fst).Nodup := by
  rw [docketed.queue, List.map_map]
  have apart := (List.pairwise_map.mp docketed.once).drop (i := s.collected.length)
  refine List.pairwise_map.mpr (apart.imp_of_mem ?_)
  rintro ⟨k, c⟩ ⟨k', c'⟩ here there different same
  obtain ⟨call, sent, _, out⟩ := waiting_sent docketed k c here
  obtain ⟨call', sent', _, out'⟩ := waiting_sent docketed k' c' there
  exact different (docketed.alone k k' c.record c'.record call call' sent sent' out out' same)

theorem poll_waiting (docketed : TrackerDocketed s) :
    s.tracker.poll.1.toList = (s.pushed.drop s.collected.length).map Prod.snd := by
  rw [(s.tracker.poll_spec (waiting_once docketed)).1, docketed.queue, List.filterMap_map,
    ← List.filterMap_eq_map]
  apply List.filterMap_congr
  rintro ⟨k, c⟩ waiting
  obtain ⟨call, sent, payload, out⟩ := waiting_sent docketed k c waiting
  have held := (docketed.held c.record.ordinal ⟨c.record, c.payload⟩).mpr
    ⟨k, call, sent, rfl, payload, out⟩
  simp [Tracker.completion?, held]

theorem waiting_ordinal (docketed : TrackerDocketed s) (k : Nat) (r : Record) (call : Call)
    (sent : s.Sent k r call) (out : k ∉ s.returned) :
    r.ordinal ∈ s.tracker.finished.toList.map Prod.fst ↔ k ∈ s.pushed.map Prod.fst := by
  rw [docketed.queue, List.map_map]
  constructor
  · intro member
    obtain ⟨⟨k', c⟩, waiting, same⟩ := List.mem_map.mp member
    obtain ⟨call', sent', _, out'⟩ := waiting_sent docketed k' c waiting
    have one := docketed.alone k' k c.record r call' call sent' sent out' out same
    subst one
    exact List.mem_map_of_mem (List.mem_of_mem_drop waiting)
  · intro member
    obtain ⟨⟨k', c⟩, pushed, rfl⟩ := List.mem_map.mp member
    obtain ⟨call', sent', _⟩ := docketed.own k' c pushed
    obtain ⟨rfl, _⟩ := sent_same k' r c.record call call' sent sent'
    rw [← List.take_append_drop s.collected.length s.pushed] at pushed
    rcases List.mem_append.mp pushed with before | waiting
    · exact absurd (List.mem_map_of_mem before) out
    · exact List.mem_map.mpr ⟨(k', c), waiting, rfl⟩

theorem poll_collects (docketed : TrackerDocketed s) :
    (s.step .poll).collected = s.pushed.map Prod.snd := by
  have joined : (s.step .poll).collected = s.collected ++ s.tracker.poll.1.toList := by
    simp [step, Docket.collected]
  rw [joined, poll_waiting docketed, docketed.collected, ← List.map_append, ← docketed.collected,
    List.take_append_drop]

theorem poll_held (docketed : TrackerDocketed s) (i : Nat) (f : InFlight) :
    s.tracker.poll.2.inFlight[i]? = some f ↔
      ∃ k call, s.Sent k f.record call ∧ f.record.ordinal = i ∧ call.message.payload = f.payload ∧
        k ∉ s.pushed.map Prod.fst := by
  obtain ⟨_, left, _⟩ := s.tracker.poll_spec (waiting_once docketed)
  constructor
  · intro found
    have absent : i ∉ s.tracker.finished.toList.map Prod.fst := by
      intro member
      rw [(left i).1 member] at found
      cases found
    rw [(left i).2 absent] at found
    obtain ⟨k, call, sent, rfl, payload, out⟩ := (docketed.held i f).mp found
    rw [waiting_ordinal docketed k f.record call sent out] at absent
    exact ⟨k, call, sent, rfl, payload, absent⟩
  · rintro ⟨k, call, sent, rfl, payload, absent⟩
    have out : k ∉ s.returned := fun member => absent (returned_pushed k member)
    rw [← waiting_ordinal docketed k f.record call sent out] at absent
    rw [(left f.record.ordinal).2 absent]
    exact (docketed.held f.record.ordinal f).mpr ⟨k, call, sent, rfl, payload, out⟩

theorem docketed_poll (docketed : TrackerDocketed s) : TrackerDocketed (s.step .poll) := by
  obtain ⟨_, _, frame⟩ := s.tracker.poll_spec (waiting_once docketed)
  have tracker : (s.step .poll).tracker = s.tracker.poll.2 := rfl
  have all := poll_collects docketed
  have whole : (s.step .poll).collected.length = s.pushed.length := by
    rw [all, List.length_map]
  have back : (s.step .poll).returned = s.pushed.map Prod.fst := by
    rw [returned, whole]
    exact congrArg _ (List.take_of_length_le (Nat.le_refl _))
  have pushed : (s.step .poll).pushed = s.pushed := rfl
  constructor
  · rw [tracker, frame]
    exact docketed.sound
  · exact docketed.numbered
  · exact docketed.distinct
  · exact docketed.known
  · exact docketed.own
  · exact docketed.once
  · exact Nat.le_of_eq whole
  · rw [whole, all, pushed, List.take_of_length_le (Nat.le_refl _)]
  · rw [whole, tracker, frame, pushed, List.drop_of_length_le (Nat.le_refl _)]
    rfl
  · rw [tracker, back]
    exact poll_held docketed
  · intro k k' r r' call call' sent sent' out out' same
    rw [back] at out out'
    exact docketed.alone k k' r r' call call' sent sent'
      (fun member => out (returned_pushed k member))
      (fun member => out' (returned_pushed k' member)) same
  · rw [tracker, frame]
    exact docketed.awaits

theorem docketed_step (docketed : TrackerDocketed s) (act : Act) (allowed : s.allows act = true) :
    TrackerDocketed (s.step act) := by
  cases act with
  | submit r => exact docketed_submit docketed r allowed
  | poll => exact docketed_poll docketed
  | event e =>
    cases e with
    | resolve number signal => exact docketed_resolve docketed number signal
    | run number => exact docketed_finish docketed number

theorem docketed_run (docketed : TrackerDocketed s) (acts : List Act)
    (orderly : s.orderly acts = true) :
    TrackerDocketed (s.run acts) := by
  induction acts generalizing s with
  | nil => exact docketed
  | cons act acts ih =>
    obtain ⟨allowed, later⟩ := Bool.and_eq_true_iff.mp orderly
    exact ih (docketed_step docketed act allowed) later

end Docket

end Courier
