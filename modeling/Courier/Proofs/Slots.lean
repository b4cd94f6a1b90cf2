import Courier.Proofs.Barren
import Courier.Proofs.Completions
import Courier.Proofs.Wire

set_option autoImplicit false

namespace Courier

namespace Tracker

theorem capacity_iff (t : Tracker) : t.hasCapacity = true ↔ t.inFlight.size < t.ceiling :=
  decide_eq_true_iff

theorem hold_size (t : Tracker) (r : Record) (payload : Bytes) :
    t.inFlight.size ≤ (t.hold r payload).inFlight.size ∧
      (t.hold r payload).inFlight.size ≤ t.inFlight.size + 1 :=
  ⟨Std.ExtTreeMap.size_le_size_insert, Std.ExtTreeMap.size_insert_le⟩

theorem submit_slots (t : Tracker) (r : Record) (c : Client) :
    (t.submit r c).2.1.ceiling = t.ceiling ∧
      t.inFlight.size ≤ (t.submit r c).2.1.inFlight.size ∧
      (t.inFlight.size ≤ t.ceiling → (t.submit r c).2.1.inFlight.size ≤ t.ceiling) ∧
      ((t.submit r c).2.2 = c ∨
        ∃ m, (t.submit r c).2.2 = (c.publish m).2 ∧ t.inFlight.size < t.ceiling) := by
  rcases t.submit_cases r c with ⟨_, next⟩ | ⟨_, fault, _, next⟩ |
    ⟨capacity, payload, _, ⟨note, _, next⟩ | ⟨report, _, next⟩ | ⟨signal, _, next⟩⟩
  · rw [next]
    exact ⟨rfl, Nat.le_refl _, id, .inl rfl⟩
  · rw [next]
    exact ⟨rfl, Nat.le_refl _, id, .inl rfl⟩
  · rw [next]
    exact ⟨rfl, Nat.le_refl _, id, .inr ⟨_, rfl, t.capacity_iff.mp capacity⟩⟩
  · have room := t.capacity_iff.mp capacity
    obtain ⟨grown, one⟩ := t.hold_size r payload
    rw [next]
    exact ⟨rfl, grown, fun _ => Nat.le_trans one room, .inr ⟨_, rfl, room⟩⟩
  · have room := t.capacity_iff.mp capacity
    obtain ⟨grown, one⟩ := t.hold_size r payload
    rw [next]
    exact ⟨rfl, grown, fun _ => Nat.le_trans one room, .inr ⟨_, rfl, room⟩⟩

theorem collect_size (entries : List (Nat × Outcome)) (done : Array Completion)
    (inFlight : Std.ExtTreeMap Nat InFlight) :
    (entries.foldl collect (done, inFlight)).2.size +
      (entries.foldl collect (done, inFlight)).1.size = inFlight.size + done.size := by
  induction entries generalizing done inFlight with
  | nil => rfl
  | cons entry rest ih =>
    rw [List.foldl_cons]
    cases found : inFlight[entry.1]? with
    | none =>
      have skip : collect (done, inFlight) entry = (done, inFlight) := by simp [collect, found]
      rw [skip, ih]
    | some f =>
      have take : collect (done, inFlight) entry =
          (done.push ⟨f.record, f.payload, entry.2⟩, inFlight.erase entry.1) := by
        simp [collect, found]
      have held : inFlight.contains entry.1 = true := by
        rw [Std.ExtTreeMap.contains_eq_isSome_getElem?, found]
        rfl
      have filled : inFlight.size ≠ 0 := by
        intro none_held
        rw [Std.ExtTreeMap.eq_empty_iff_size_eq_zero.mpr none_held] at found
        simp at found
      rw [take, ih, Array.size_push, Std.ExtTreeMap.size_erase, if_pos held]
      omega

theorem poll_size (t : Tracker) :
    t.poll.2.inFlight.size + t.poll.1.size = t.inFlight.size := by
  have all := collect_size t.finished.toList #[] t.inFlight
  rw [Array.foldl_toList] at all
  exact all

end Tracker

def Call.isUnheard (given : List (Nat × Signal)) (c : Call) : Bool :=
  match c.answer with
  | .taken _ => (c.signal? given).isNone
  | _ => false

theorem unheard_outcome (given : List (Nat × Signal)) (c : Call)
    (unheard : c.isUnheard given = true) :
    c.outcome? given = none ∧ c.answer.isFull = false := by
  unfold Call.isUnheard at unheard
  split at unheard
  · rename_i early taken
    rw [Option.isNone_iff_eq_none] at unheard
    simp [Call.outcome?, taken, unheard, Answer.isFull]
  · cases unheard

namespace Docket

variable {s : Docket}

def unheard (s : Docket) (first : Nat) : List Call :=
  (s.client.callsFrom first).filter (Call.isUnheard s.given)

theorem step_client (s : Docket) (act : Act) :
    (s.step act).client = s.client ∨
      ∃ m, (s.step act).client = (s.client.publish m).2 ∧
        s.tracker.inFlight.size < s.tracker.ceiling := by
  cases act with
  | submit r => exact (s.tracker.submit_slots r s.client).2.2.2
  | poll => exact .inl rfl
  | event e => exact .inl rfl

theorem step_ceiling (s : Docket) (act : Act) :
    (s.step act).tracker.ceiling = s.tracker.ceiling := by
  cases act with
  | submit r => exact (s.tracker.submit_slots r s.client).1
  | poll => rfl
  | event e => exact (s.tracker.apply_frame e).2.2.2.1

theorem step_within (s : Docket) (act : Act)
    (within : s.tracker.inFlight.size ≤ s.tracker.ceiling) :
    (s.step act).tracker.inFlight.size ≤ (s.step act).tracker.ceiling := by
  rw [s.step_ceiling act]
  cases act with
  | submit r => exact (s.tracker.submit_slots r s.client).2.2.1 within
  | poll =>
    have freed := s.tracker.poll_size
    change s.tracker.poll.2.inFlight.size ≤ s.tracker.ceiling
    omega
  | event e =>
    change (s.tracker.apply e).inFlight.size ≤ s.tracker.ceiling
    rw [(s.tracker.apply_frame e).2.2.2.2]
    exact within

theorem run_within (s : Docket) (acts : List Act)
    (within : s.tracker.inFlight.size ≤ s.tracker.ceiling) :
    (s.run acts).tracker.ceiling = s.tracker.ceiling ∧
      (s.run acts).tracker.inFlight.size ≤ s.tracker.ceiling := by
  induction acts generalizing s with
  | nil => exact ⟨rfl, within⟩
  | cons act acts ih =>
    have later := ih (s.step act) (s.step_within act within)
    rw [s.step_ceiling act] at later
    exact later

structure Voiced (first : Nat) (s : Docket) : Prop where
  seen : first ≤ s.client.calls.size
  calls : s.offers.filterMap Offer.call? = s.client.callsFrom first

theorem voiced_step (first : Nat) (voiced : Voiced first s) (act : Act) :
    Voiced first (s.step act) := by
  cases act with
  | poll => exact ⟨voiced.seen, voiced.calls⟩
  | event e => exact ⟨voiced.seen, voiced.calls⟩
  | submit r =>
    have joined (client : Client) (offer : Offer)
        (next : s.client = client ∨ ∃ m, client = (s.client.publish m).2)
        (call : offer.call? = (client.callsFrom s.client.calls.size).head?) :
        first ≤ client.calls.size ∧
          (s.offers ++ [offer]).filterMap Offer.call? = client.callsFrom first := by
      rcases next with rfl | ⟨m, rfl⟩
      · rw [s.client.callsFrom_size] at call
        refine ⟨voiced.seen, ?_⟩
        simp [List.filterMap_append, call, voiced.calls]
      · rw [s.client.callsFrom_push m _ (Nat.le_refl _), s.client.callsFrom_size] at call
        refine ⟨Nat.le_trans voiced.seen (by simp [Client.publish]), ?_⟩
        rw [s.client.callsFrom_push m first voiced.seen, List.filterMap_append, voiced.calls]
        simp [call]
    have said : s.client = (s.step (.submit r)).client ∨
        ∃ m, (s.step (.submit r)).client = (s.client.publish m).2 := by
      rcases (s.tracker.submit_slots r s.client).2.2.2 with same | ⟨m, next, _⟩
      · exact .inl same.symm
      · exact .inr ⟨m, next⟩
    obtain ⟨seen, calls⟩ := joined (s.step (.submit r)).client
      ⟨r, (s.tracker.submit r s.client).1, _⟩ said rfl
    exact ⟨seen, calls⟩

theorem voiced_run (first : Nat) (voiced : Voiced first s) (acts : List Act) :
    Voiced first (s.run acts) := by
  induction acts generalizing s with
  | nil => exact voiced
  | cons act acts ih => exact ih (voiced_step first voiced act)

theorem unheard_outstanding (docketed : TrackerDocketed s) (k : Nat) (o : Offer) (call : Call)
    (found : s.offers[k]? = some o) (made : o.call? = some call)
    (unheard : call.isUnheard s.given = true) : o.isAccepted = true ∧ k ∉ s.returned := by
  obtain ⟨unknown, room⟩ := unheard_outcome s.given call unheard
  have sound := docketed.sound o (List.mem_of_getElem? found)
  have accepted : o.isAccepted = true := by
    obtain ⟨r, result, called⟩ := o
    cases result with
    | accepted => rfl
    | deferred back =>
      have full := sound.2 call made
      rw [room] at full
      cases full
    | rejected back fault =>
      have silent := sound.2
      rw [made] at silent
      cases silent
  refine ⟨accepted, fun returned => ?_⟩
  obtain ⟨⟨k, c⟩, member, rfl⟩ := List.mem_map.mp (returned_pushed k returned)
  obtain ⟨call', sent, _, outcome⟩ := docketed.own k c member
  rw [Sent, found, Option.some_inj] at sent
  rw [sent] at made
  cases made
  rw [unknown] at outcome
  cases outcome

theorem unheard_slots (first : Nat) (docketed : TrackerDocketed s) (voiced : Voiced first s) :
    (s.unheard first).length ≤ s.tracker.inFlight.size := by
  have slots := (slots_outstanding docketed).length_eq
  rw [Std.ExtTreeMap.length_keys, List.length_map, outstanding, List.length_map,
    ← List.countP_eq_length_filter] at slots
  rw [slots, unheard, ← voiced.calls, List.filter_filterMap, List.length_filterMap_eq_countP]
  have listed : s.offers = s.offers.zipIdx.map Prod.fst := (List.zipIdx_map_fst 0 s.offers).symm
  conv_lhs => rw [listed, List.countP_map]
  apply List.countP_mono_left
  rintro ⟨o, k⟩ member pending
  have found := List.mk_mem_zipIdx_iff_getElem?.mp member
  obtain ⟨call, kept⟩ := Option.isSome_iff_exists.mp pending
  obtain ⟨made, unheard⟩ := Option.filter_eq_some_iff.mp kept
  obtain ⟨accepted, out⟩ := unheard_outstanding docketed k o call found made unheard
  simp [accepted, out]

-- What a ceiling allows, and what happens to the slots below it.
structure Bounded (ceiling first : Nat) (s : Docket) : Prop where
  within : s.tracker.inFlight.size ≤ max ceiling 1
  calls : ∀ act, (s.step act).client = s.client ∨
    ∃ m, (s.step act).client = (s.client.publish m).2 ∧
      s.tracker.inFlight.size < max ceiling 1
  unheard : (s.unheard first).length ≤ s.tracker.inFlight.size
  kept : ∀ e, (s.step (.event e)).tracker.inFlight = s.tracker.inFlight
  taken : ∀ r, s.tracker.inFlight.size ≤ (s.step (.submit r)).tracker.inFlight.size
  freed : (s.step .poll).tracker.inFlight.size + s.tracker.poll.1.size = s.tracker.inFlight.size
  room : s.tracker.inFlight.size = 0 → s.tracker.hasCapacity = true

theorem docket_bounded (format : Format) (topic : Text) (properties : Attributes)
    (ceiling : Nat) (client : Client) (acts : List Act)
    (orderly : (start format topic properties ceiling client).orderly acts = true) :
    Bounded ceiling client.calls.size
      ((start format topic properties ceiling client).run acts) := by
  have docketed := docketed_run (docketed_start format topic properties ceiling client) acts orderly
  have voiced := voiced_run client.calls.size
    (s := start format topic properties ceiling client)
    ⟨Nat.le_refl _, client.callsFrom_size.symm⟩ acts
  obtain ⟨limit, within⟩ := run_within (start format topic properties ceiling client) acts
    (Nat.zero_le _)
  change _ = max ceiling 1 at limit
  change _ ≤ max ceiling 1 at within
  generalize (start format topic properties ceiling client).run acts = s at *
  refine ⟨within, ?_, unheard_slots _ docketed voiced, fun e => (s.tracker.apply_frame e).2.2.2.2,
    fun r => (s.tracker.submit_slots r s.client).2.1, s.tracker.poll_size, ?_⟩
  · rw [← limit]
    exact s.step_client
  · intro empty
    rw [Tracker.capacity_iff, empty, limit]
    omega

end Docket

namespace Batch

theorem hand_over_keeps (P : Tracker → Client → Prop)
    (kept : ∀ t r c, P t c → P (t.submit r c).2.1 (t.submit r c).2.2)
    (rest : List Record) (a : Admission) (holds : P a.tracker a.client) :
    P (handOver rest a).2.tracker (handOver rest a).2.client := by
  induction rest generalizing a with
  | nil => exact holds
  | cons r rest ih =>
    obtain ⟨t, l, c, submitted, resolved⟩ := a
    have next := kept t r c holds
    rw [handOver]
    generalize t.submit r c = offered at next ⊢
    obtain ⟨result, t', c'⟩ := offered
    cases result with
    | accepted => exact ih _ next
    | rejected back fault => exact ih _ next
    | deferred back => exact next

theorem hand_over_within (rest : List Record) (a : Admission)
    (within : a.tracker.inFlight.size ≤ a.tracker.ceiling) :
    (handOver rest a).2.tracker.ceiling = a.tracker.ceiling ∧
      (handOver rest a).2.tracker.inFlight.size ≤ (handOver rest a).2.tracker.ceiling :=
  hand_over_keeps (fun t _ => t.ceiling = a.tracker.ceiling ∧ t.inFlight.size ≤ t.ceiling)
    (fun t r c same => by
      obtain ⟨limit, _, below, _⟩ := t.submit_slots r c
      exact ⟨limit.trans same.1, limit.symm ▸ below same.2⟩)
    rest a ⟨rfl, within⟩

theorem cycle_ceiling (b : Batch) (c : Client) :
    (b.cycle c).2.1.tracker.ceiling = b.tracker.ceiling := by
  rcases b.cycle_cases c with ⟨_, next⟩ | ⟨_, _, next⟩ | ⟨_, _, next⟩
  · rw [next]
  · rw [next]
  · rw [next, (b.advance_spec c).1]
    exact hand_over_keeps (fun t _ => t.ceiling = b.tracker.ceiling)
      (fun t r c same => (t.submit_slots r c).1.trans same) b.unsubmitted (b.admission c) rfl

theorem hand_over_busy (rest : List Record) (a : Admission) (busy : a.tracker.hasCapacity = false) :
    (handOver rest a).2.client = a.client := by
  cases rest with
  | nil => rfl
  | cons r rest =>
    obtain ⟨t, l, c, submitted, resolved⟩ := a
    have waits : t.submit r c = (.deferred r, t, c) := by
      rw [Tracker.submit, busy]
      rfl
    rw [handOver, waits]

theorem hand_over_alone (rest : List Record) (a : Admission) (single : a.tracker.ceiling = 1) :
    (handOver rest a).2.client = a.client ∨
      ∃ r payload, rest.find? a.tracker.format.writes = some r ∧
        a.tracker.format.render r = .ok payload ∧
        (handOver rest a).2.client = (a.client.publish (a.tracker.message r payload)).2 ∧
        a.tracker.inFlight.size = 0 := by
  induction rest generalizing a with
  | nil => exact .inl rfl
  | cons r rest ih =>
    obtain ⟨t, l, c, submitted, resolved⟩ := a
    change t.ceiling = 1 at single
    have filled (payload : Bytes) (t' : Tracker) (limit : t'.ceiling = t.ceiling)
        (slots : t'.inFlight = (t.hold r payload).inFlight) : t'.hasCapacity = false := by
      rw [Tracker.hasCapacity, limit, slots, single, decide_eq_false_iff_not]
      intro free
      have none_held := Std.ExtTreeMap.eq_empty_iff_size_eq_zero.mpr (Nat.lt_one_iff.mp free)
      simp [Tracker.hold] at none_held
    have first (payload : Bytes) (rendered : t.format.render r = .ok payload) :
        (r :: rest).find? t.format.writes = some r := by
      rw [List.find?_cons_of_pos]
      rw [Format.writes, rendered]
      rfl
    have idle (capacity : t.hasCapacity = true) : t.inFlight.size = 0 := by
      have room := t.capacity_iff.mp capacity
      omega
    rcases t.submit_cases r c with ⟨busy, _⟩ | ⟨_, fault, failed, next⟩ |
      ⟨capacity, payload, rendered, ⟨note, _, next⟩ | ⟨report, _, next⟩ | ⟨signal, _, next⟩⟩
    · exact .inl (hand_over_busy (r :: rest) ⟨t, l, c, submitted, resolved⟩ busy)
    · have unwritten : ¬ t.format.writes r = true := by
        rw [Format.writes, failed]
        simp [Except.isOk, Except.toBool]
      simp only [handOver, next]
      rw [List.find?_cons_of_neg unwritten]
      exact ih ⟨t, l.recordFailure r.ordinal r.raw, c, submitted, resolved + 1⟩ single
    · refine .inr ⟨r, payload, first payload rendered, rendered, ?_, idle capacity⟩
      simp only [handOver, next]
    · refine .inr ⟨r, payload, first payload rendered, rendered, ?_, idle capacity⟩
      simp only [handOver, next]
      exact hand_over_busy rest _ (filled payload _ rfl rfl)
    · refine .inr ⟨r, payload, first payload rendered, rendered, ?_, idle capacity⟩
      simp only [handOver, next]
      exact hand_over_busy rest _ (filled payload _ rfl rfl)

end Batch

variable {p : Publisher} {records : List Record} {roster : List Entry}

theorem course_ceiling (p : Publisher) (input : Input) (client : Client) (moves : List Move) :
    ((Course.start p input client).run moves).batch.tracker.ceiling =
      max p.settings.ceiling 1 := by
  have steps (s : Course) :
      (s.run moves).batch.tracker.ceiling = s.batch.tracker.ceiling := by
    induction moves generalizing s with
    | nil => rfl
    | cons m moves ih =>
      refine (ih (s.step m)).trans ?_
      cases m with
      | cycle => exact s.batch.cycle_ceiling s.client
      | event e => exact (s.batch.tracker.apply_frame e).2.2.2.1
  exact steps _

theorem idle_recorded (input : Input) (s : Course)
    (rostered : CourseRostered p input records s roster)
    (idle : s.batch.tracker.inFlight.size = 0) :
    ∀ r ∈ records.take s.batch.submittedCount,
      r.ordinal ∈ s.batch.ledger.success ∨ r.ordinal ∈ s.batch.ledger.failure := by
  intro r member
  obtain ⟨i, found⟩ := List.mem_iff_getElem?.mp member
  rw [rostered_taken input s rostered, ← rostered.mirrors.told.taken, List.take_left' (by simp),
    List.getElem?_map] at found
  obtain ⟨e, listed, rfl⟩ := Option.map_eq_some_iff.mp found
  have placed := mirrors_placed rostered.mirrors i e listed
  have one := e.one_part
  have unheld : e.inFlight? = none := by
    have view := rostered.mirrors.tracker.inFlight i
    rw [Std.ExtTreeMap.eq_empty_iff_size_eq_zero.mpr idle, listed] at view
    simpa using view.symm
  have success := rostered.mirrors.tracker.success i
  have failure := rostered.mirrors.tracker.failure i
  rw [listed] at success failure
  rw [placed, Std.ExtTreeMap.mem_iff_isSome_getElem?, Std.ExtTreeMap.mem_iff_isSome_getElem?,
    success, failure, Option.bind_some, Option.bind_some]
  rw [unheld] at one
  cases succeeded : e.success?.isSome with
  | true => exact .inl rfl
  | false =>
    cases failed : e.failure?.isSome with
    | true => exact .inr rfl
    | false => simp [succeeded, failed] at one

-- A cycle makes one call at most, for the first record that is left and can be written, and only
-- when all records before have their outcomes in the ledger.
def Alternates (p : Publisher) (input : Input) (s : Course) : Prop :=
  (s.step .cycle).client = s.client ∨
    ∃ records r m, p.format.parse p.key input.content = .ok records ∧
      (records.drop s.batch.submittedCount).find? p.format.writes = some r ∧
      Carries p input.attributes r m ∧ (s.step .cycle).client = (s.client.publish m).2 ∧
      ∀ earlier ∈ records.take s.batch.submittedCount,
        earlier.ordinal ∈ s.batch.ledger.success ∨ earlier.ordinal ∈ s.batch.ledger.failure

theorem barren_client (input : Input) (s : Course) (barren : Barren p input s) :
    (s.step .cycle).client = s.client := by
  by_cases resolved : s.batch.stage = .resolved
  · simp only [Course.step, s.batch.cycle_resolved s.client resolved]
  · obtain ⟨fault, found⟩ := Option.isSome_iff_exists.mp (barren.pending resolved).1
    simp only [Course.step, s.batch.cycle_unreadable s.client fault resolved found]

theorem rostered_alternates (input : Input) (s : Course)
    (rostered : CourseRostered p input records s roster)
    (parsed : p.format.parse p.key input.content = .ok records)
    (single : s.batch.tracker.ceiling = 1) : Alternates p input s := by
  by_cases resolved : s.batch.stage = .resolved
  · left
    simp only [Course.step, s.batch.cycle_resolved s.client resolved]
  have left : s.batch.unsubmitted = records.drop s.batch.submittedCount := by
    rw [rostered_taken input s rostered, ← rostered.mirrors.told.taken, List.drop_left' (by simp)]
  have cycled : (s.step .cycle).client =
      (Batch.handOver s.batch.unsubmitted (s.batch.admission s.client)).2.client := by
    simp only [Course.step, s.batch.cycle_readable s.client resolved rostered.readable,
      (s.batch.advance_spec s.client).1]
  rcases Batch.hand_over_alone s.batch.unsubmitted (s.batch.admission s.client) single with
    silent | ⟨r, payload, first, rendered, made, idle⟩
  · exact .inl (cycled.trans silent)
  · have format : (s.batch.admission s.client).tracker.format = p.format := rostered.mirrors.format
    rw [format] at first rendered
    rw [left] at first
    refine .inr ⟨records, r, _, parsed, first, ?_, cycled.trans made,
      idle_recorded input s rostered idle⟩
    exact message_carries r _ (mirrors_message r payload rostered.mirrors rendered)

theorem course_alternates (p : Publisher) (input : Input) (client : Client) (moves : List Move)
    (patient : p.settings.asyncEnabled = false) :
    Alternates p input ((Course.start p input client).run moves) := by
  have single := course_ceiling p input client moves
  rw [PublishSettings.ceiling, patient] at single
  rcases read_cases p input.content with ⟨fault, read⟩ | ⟨records, parsed, nonempty⟩
  · exact .inl (barren_client input _ (barren_run input _ moves
      (barren_start p input client fault read)))
  · obtain ⟨roster, rostered⟩ := rostered_run input client moves parsed nonempty
    exact rostered_alternates input _ rostered parsed single

/-- No history of a tracker goes over its ceiling; with a ceiling of one records go one at a time.
-/
theorem ceiling_holds (format : Format) (topic : Text) (properties : Attributes) (ceiling : Nat)
    (client : Client) (acts : List Docket.Act)
    (orderly : (Docket.start format topic properties ceiling client).orderly acts = true) :
    Docket.Bounded ceiling client.calls.size
        ((Docket.start format topic properties ceiling client).run acts) ∧
      ∀ (p : Publisher) (input : Input) (client : Client) (moves : List Move),
        p.settings.asyncEnabled = false →
          Alternates p input ((Course.start p input client).run moves) :=
  ⟨Docket.docket_bounded format topic properties ceiling client acts orderly, course_alternates⟩

theorem sample_ceiling_holds :
    (Docket.start Sample.publisher.format ['t'] ∅ 0 Sample.client).orderly Docket.Sample.acts =
        true ∧
      Sample.patient.settings.asyncEnabled = false ∧
      Docket.Bounded 0 0 ((Docket.start Sample.publisher.format ['t'] ∅ 0 Sample.client).run
        Docket.Sample.acts) ∧
      Alternates Sample.patient Sample.input
        ((Course.start Sample.patient Sample.input Sample.brusque).run Sample.waits) :=
  have bounded := ceiling_holds Sample.publisher.format ['t'] ∅ 0 Sample.client
    Docket.Sample.acts (by decide)
  ⟨by decide, rfl, bounded.1, bounded.2 Sample.patient Sample.input Sample.brusque Sample.waits rfl⟩

end Courier
