import Courier.Proofs.Dialogue
import Courier.Proofs.Tiling

set_option autoImplicit false

namespace Courier

variable {p : Publisher} {attributes : Attributes} {records : List Record} {first : Nat}
  {given : List (Nat × Signal)} {roster : List Entry} {rest : List Record}
  {t : Tracker} {l : Ledger} {c : Client}

structure Mirrors (p : Publisher) (attributes : Attributes) (records : List Record) (first : Nat)
    (given : List (Nat × Signal)) (roster : List Entry) (rest : List Record)
    (t : Tracker) (l : Ledger) (c : Client) : Prop where
  tracker : TrackerRostered roster t l
  told : Told p attributes records first given roster rest c
  ordinals : records.map Record.ordinal = List.range records.length
  format : t.format = p.format
  topic : t.topic = p.settings.topic
  properties : t.properties = p.settings.propertiesOf attributes

theorem mirrors_placed (mirrors : Mirrors p attributes records first given roster rest t l c)
    (i : Nat) (e : Entry) (found : roster[i]? = some e) : e.record.ordinal = i := by
  have counted : (records.map Record.ordinal)[i]? = some e.record.ordinal := by
    rw [← mirrors.told.taken, List.getElem?_map, List.getElem?_append_left]
    · simp [found]
    · rw [List.length_map]
      exact (List.getElem?_eq_some_iff.mp found).1
  rw [mirrors.ordinals] at counted
  obtain ⟨_, same⟩ := List.getElem?_eq_some_iff.mp counted
  simpa using same.symm

theorem mirrors_next (r : Record)
    (mirrors : Mirrors p attributes records first given roster (r :: rest) t l c) :
    r.ordinal = roster.length := by
  have counted : (records.map Record.ordinal)[roster.length]? = some r.ordinal := by
    rw [← mirrors.told.taken, List.getElem?_map, List.getElem?_append_right (by simp)]
    simp
  rw [mirrors.ordinals] at counted
  obtain ⟨_, same⟩ := List.getElem?_eq_some_iff.mp counted
  simpa using same.symm

theorem mirrors_message (r : Record) (payload : Bytes)
    (mirrors : Mirrors p attributes records first given roster rest t l c)
    (rendered : p.format.render r = .ok payload) :
    p.message? attributes r = some (t.message r payload) := by
  simp [Publisher.message?, rendered, Tracker.message, mirrors.topic, mirrors.properties]

theorem mirrors_fresh (mirrors : Mirrors p attributes records first given roster rest t l c) :
    t.awaited[c.calls.size]? = none := by
  cases found : t.awaited[c.calls.size]? with
  | none => rfl
  | some a =>
    obtain ⟨e, listed, awaited⟩ := Option.bind_eq_some_iff.mp
      ((mirrors.tracker.awaited c.calls.size a.ordinal a.signal).mp found)
    obtain ⟨call, sent, same⟩ := e.awaited_call c.calls.size a.signal awaited
    have less := told_number mirrors.told e (List.mem_of_getElem? listed) call sent
    omega

theorem mirrors_reject (r : Record) (fault : Unwritable)
    (mirrors : Mirrors p attributes records first given roster (r :: rest) t l c)
    (failed : p.format.render r = .error fault) :
    Mirrors p attributes records first given (roster ++ [.unwritable r]) rest t
      (l.recordFailure r.ordinal r.raw) c where
  tracker := tracker_reject roster t l r mirrors.tracker (mirrors_next r mirrors)
  told := told_unwritable r fault mirrors.told failed
  ordinals := mirrors.ordinals
  format := mirrors.format
  topic := mirrors.topic
  properties := mirrors.properties

theorem mirrors_full (r : Record) (payload : Bytes) (note : Text)
    (mirrors : Mirrors p attributes records first given roster (r :: rest) t l c)
    (rendered : p.format.render r = .ok payload)
    (full : c.answer c.calls.size (t.message r payload) = .full note) :
    Mirrors p attributes records first given roster (r :: rest) t l
      (c.publish (t.message r payload)).2 where
  tracker := mirrors.tracker
  told := told_full r mirrors.told _ (mirrors_message r payload mirrors rendered)
    (by rw [full]; rfl)
  ordinals := mirrors.ordinals
  format := mirrors.format
  topic := mirrors.topic
  properties := mirrors.properties

theorem mirrors_refuse (r : Record) (payload : Bytes) (report : Report)
    (mirrors : Mirrors p attributes records first given roster (r :: rest) t l c)
    (rendered : p.format.render r = .ok payload)
    (refused : c.answer c.calls.size (t.message r payload) = .refused report) :
    ∃ e, Mirrors p attributes records first given (roster ++ [e]) rest
      ((t.hold r payload).finish r.ordinal (.failed report)) l
      (c.publish (t.message r payload)).2 := by
  have told := told_sent r mirrors.told payload rendered _
    (mirrors_message r payload mirrors rendered) (by rw [refused]; rfl) (.queued (.failed report))
    (by rw [refused]; rfl)
  exact ⟨_, tracker_refuse roster t l r payload _ _ mirrors.tracker (mirrors_next r mirrors), told,
    mirrors.ordinals, mirrors.format, mirrors.topic, mirrors.properties⟩

theorem mirrors_take (r : Record) (payload : Bytes) (signal : Option Signal)
    (mirrors : Mirrors p attributes records first given roster (r :: rest) t l c)
    (rendered : p.format.render r = .ok payload)
    (taken : c.answer c.calls.size (t.message r payload) = .taken signal) :
    ∃ e, Mirrors p attributes records first given (roster ++ [e]) rest
      ((t.hold r payload).await c.calls.size r.ordinal signal) l
      (c.publish (t.message r payload)).2 := by
  have unheard : given.lookup c.calls.size = none := by
    rw [List.lookup_eq_none_iff]
    intro x member
    have less := mirrors.told.known x member
    simp only [bne_iff_ne]
    omega
  have told := told_sent r mirrors.told payload rendered _
    (mirrors_message r payload mirrors rendered) (by rw [taken]; rfl) (.awaited signal) (by
      rw [taken]
      refine ⟨⟨signal, rfl⟩, ?_⟩
      cases signal with
      | none => exact unheard
      | some s => rfl)
  exact ⟨_, tracker_await roster t l r payload ⟨c.calls.size, _, _⟩ signal mirrors.tracker
    (mirrors_next r mirrors) (mirrors_fresh mirrors), told,
    mirrors.ordinals, mirrors.format, mirrors.topic, mirrors.properties⟩

theorem mirrors_submit (r : Record)
    (mirrors : Mirrors p attributes records first given roster (r :: rest) t l c) :
    (∃ c', t.submit r c = (.deferred r, t, c') ∧
      Mirrors p attributes records first given roster (r :: rest) t l c') ∨
    (∃ fault, t.submit r c = (.rejected r fault, t, c) ∧
      Mirrors p attributes records first given (roster ++ [.unwritable r]) rest t
        (l.recordFailure r.ordinal r.raw) c) ∨
    (∃ t' c' e, t.submit r c = (.accepted, t', c') ∧
      Mirrors p attributes records first given (roster ++ [e]) rest t' l c') := by
  rcases t.submit_cases r c with ⟨_, busy⟩ | ⟨_, fault, failed, rejected⟩ |
    ⟨_, payload, rendered, ⟨note, full, next⟩ | ⟨report, refused, next⟩ | ⟨signal, taken, next⟩⟩
  · exact .inl ⟨c, busy, mirrors⟩
  · rw [mirrors.format] at failed
    exact .inr (.inl ⟨fault, rejected, mirrors_reject r fault mirrors failed⟩)
  · rw [mirrors.format] at rendered
    exact .inl ⟨_, next, mirrors_full r payload note mirrors rendered full⟩
  · rw [mirrors.format] at rendered
    obtain ⟨e, after⟩ := mirrors_refuse r payload report mirrors rendered refused
    exact .inr (.inr ⟨_, _, e, next, after⟩)
  · rw [mirrors.format] at rendered
    obtain ⟨e, after⟩ := mirrors_take r payload signal mirrors rendered taken
    exact .inr (.inr ⟨_, _, e, next, after⟩)

theorem mirrors_handOver (rest : List Record) (a : Batch.Admission) (roster : List Entry)
    (mirrors : Mirrors p attributes records first given roster rest a.tracker a.ledger a.client) :
    ∃ roster', Mirrors p attributes records first given roster' (Batch.handOver rest a).1
      (Batch.handOver rest a).2.tracker (Batch.handOver rest a).2.ledger
      (Batch.handOver rest a).2.client := by
  induction rest generalizing a roster with
  | nil => exact ⟨roster, mirrors⟩
  | cons r rest ih =>
    obtain ⟨t, l, c, submitted, resolved⟩ := a
    rw [Batch.handOver]
    rcases mirrors_submit r mirrors with ⟨c', next, after⟩ | ⟨fault, next, after⟩ |
      ⟨t', c', e, next, after⟩
    · simp only [next]
      exact ⟨roster, after⟩
    · simp only [next]
      exact ih _ _ after
    · simp only [next]
      exact ih _ _ after

theorem mirrors_collect (mirrors : Mirrors p attributes records first given roster rest t l c) :
    Mirrors p attributes records first given (roster.map Entry.collect) rest t.poll.2
      (t.poll.1.foldl Batch.enter l) c where
  tracker := tracker_collect roster t l mirrors.tracker (mirrors_placed mirrors)
  told := told_collect mirrors.told
  ordinals := mirrors.ordinals
  format := mirrors.format
  topic := mirrors.topic
  properties := mirrors.properties

theorem mirrors_apply (mirrors : Mirrors p attributes records first given roster rest t l c)
    (e : Tracker.Event) :
    Mirrors p attributes records first (Course.noted given c.calls.size e)
      (roster.map (Entry.apply e)) rest (t.apply e) l c := by
  obtain ⟨format, topic, properties, _, _⟩ := t.apply_frame e
  refine ⟨tracker_apply roster t l e mirrors.tracker, ?_, mirrors.ordinals,
    format.trans mirrors.format, topic.trans mirrors.topic, properties.trans mirrors.properties⟩
  cases e with
  | resolve number signal => exact told_resolve mirrors.told number signal
  | run number => exact told_finish mirrors.told number

-- A course of a batch that has the records, and the roster that accounts for it.
structure CourseRostered (p : Publisher) (input : Input) (records : List Record) (s : Course)
    (roster : List Entry) : Prop where
  mirrors : Mirrors p input.attributes records s.first s.given roster s.batch.unsubmitted
    s.batch.tracker s.batch.ledger s.client
  source : s.batch.input = input
  count : s.batch.recordCount = records.length
  readable : s.batch.unreadable = none
  stage : s.batch.stage = .resolved ↔
    s.batch.unsubmitted = [] ∧ s.batch.tracker.inFlight.size = 0
  pending : s.batch.stage ≠ .resolved → s.emitted = ([], [])
  settled : s.batch.stage = .resolved → s.emitted =
    ((s.batch.ledger.assemble p.settings.topic input.attributes).1.toList,
      (s.batch.ledger.assemble p.settings.topic input.attributes).2.toList)

theorem read_parsed (p : Publisher) (content : Bytes) (records : List Record)
    (parsed : p.format.parse p.key content = .ok records) (nonempty : records ≠ []) :
    p.read content = (records, none) := by
  unfold Publisher.read
  rw [parsed]
  cases records with
  | nil => exact absurd rfl nonempty
  | cons r records => rfl

theorem stage_resolved (unsubmitted : List Record) (t : Tracker) :
    Batch.stageOf unsubmitted t = .resolved ↔ unsubmitted = [] ∧ t.inFlight.size = 0 := by
  unfold Batch.stageOf
  cases unsubmitted with
  | cons r rest => simp
  | nil =>
    by_cases held : 0 < t.inFlight.size
    · simp [held]
      omega
    · simp [held]
      omega

theorem mirrors_start (p : Publisher) (input : Input) (client : Client) (records : List Record)
    (parsed : p.format.parse p.key input.content = .ok records) :
    Mirrors p input.attributes records client.calls.size [] [] records
      (p.tracker input.attributes) {} client where
  tracker := by
    constructor
    · intro i
      simp [Publisher.tracker, Tracker.new]
    · intro n i s
      simp [Publisher.tracker, Tracker.new]
    · intro i o
      simp [Publisher.tracker, Tracker.new]
    · exact List.nodup_nil
    · intro i
      simp
    · intro i
      simp
  told := by
    refine ⟨rfl, by simp, by simp, ?_, by simp, Nat.le_refl _, ?_⟩
    · rw [client.callsFrom_size]
      rfl
    · rw [client.callsFrom_size]
      intro i call found
      simp at found
  ordinals := parse_ordinals p.format p.key input.content records parsed
  format := rfl
  topic := rfl
  properties := rfl

theorem rostered_start (p : Publisher) (input : Input) (client : Client) (records : List Record)
    (parsed : p.format.parse p.key input.content = .ok records) (nonempty : records ≠ []) :
    CourseRostered p input records (Course.start p input client) [] := by
  have read := read_parsed p input.content records parsed nonempty
  have opened : p.openBatch input = .new input records none (p.tracker input.attributes) := by
    simp [Publisher.openBatch, read]
  constructor
  · simp only [Course.start, opened]
    exact mirrors_start p input client records parsed
  · simp [Course.start, opened, Batch.new]
  · simp [Course.start, opened, Batch.new]
  · simp [Course.start, opened, Batch.new]
  · simp [Course.start, opened, Batch.new, nonempty]
  · intro _
    rfl
  · simp [Course.start, opened, Batch.new]

theorem rostered_event (input : Input) (s : Course) (e : Tracker.Event)
    (rostered : CourseRostered p input records s roster) :
    CourseRostered p input records (s.step (.event e)) (roster.map (Entry.apply e)) where
  mirrors := mirrors_apply rostered.mirrors e
  source := rostered.source
  count := rostered.count
  readable := rostered.readable
  stage := by
    obtain ⟨_, _, _, _, held⟩ := s.batch.tracker.apply_frame e
    simp only [Course.step, held]
    exact rostered.stage
  pending := rostered.pending
  settled := rostered.settled

theorem emitted_cycle (s : Course) :
    (s.step .cycle).emitted =
      (s.emitted.1 ++ (s.batch.cycle s.client).1.success.toList,
        s.emitted.2 ++ (s.batch.cycle s.client).1.failure.toList) := by
  simp only [Course.emitted, Course.step, List.filterMap_append, List.filterMap_cons,
    List.filterMap_nil]
  cases (s.batch.cycle s.client).1.success <;> cases (s.batch.cycle s.client).1.failure <;> rfl

theorem rostered_cycle (input : Input) (s : Course)
    (rostered : CourseRostered p input records s roster) :
    ∃ roster', CourseRostered p input records (s.step .cycle) roster' := by
  by_cases resolved : s.batch.stage = .resolved
  · have idle := s.batch.cycle_resolved s.client resolved
    refine ⟨roster, ?_⟩
    constructor
    · simpa [Course.step, idle] using rostered.mirrors
    · simpa [Course.step, idle] using rostered.source
    · simpa [Course.step, idle] using rostered.count
    · simpa [Course.step, idle] using rostered.readable
    · simpa [Course.step, idle] using rostered.stage
    · simp [Course.step, idle, resolved]
    · simpa [Course.step, idle, Course.emitted] using rostered.settled
  · have cycled := s.batch.cycle_readable s.client resolved rostered.readable
    obtain ⟨after, result⟩ := s.batch.advance_spec s.client
    obtain ⟨fresh, handed⟩ := mirrors_handOver s.batch.unsubmitted
      (s.batch.admission s.client) roster rostered.mirrors
    have mirrors := mirrors_collect handed
    have emitted := emitted_cycle s
    rw [rostered.pending resolved, cycled, result] at emitted
    refine ⟨fresh.map Entry.collect, ?_⟩
    constructor
    · simpa [Course.step, cycled, after] using mirrors
    · simpa [Course.step, cycled, after] using rostered.source
    · simpa [Course.step, cycled, after] using rostered.count
    · simpa [Course.step, cycled, after] using rostered.readable
    · simp [Course.step, cycled, after, stage_resolved]
    · intro pending
      simp only [Course.step, cycled, after] at pending
      rw [emitted, if_neg pending, if_neg pending]
      rfl
    · intro done
      simp only [Course.step, cycled, after] at done
      rw [emitted, if_pos done, if_pos done, mirrors.topic, rostered.source]
      simp [Course.step, cycled, after]

theorem rostered_moves (input : Input) (s : Course) (moves : List Move) (roster : List Entry)
    (rostered : CourseRostered p input records s roster) :
    ∃ roster', CourseRostered p input records (s.run moves) roster' := by
  induction moves generalizing s roster with
  | nil => exact ⟨roster, rostered⟩
  | cons m moves ih =>
    cases m with
    | cycle =>
      obtain ⟨next, after⟩ := rostered_cycle input s rostered
      exact ih _ next after
    | event e => exact ih _ _ (rostered_event input s e rostered)

theorem rostered_run (input : Input) (client : Client) (moves : List Move)
    (parsed : p.format.parse p.key input.content = .ok records) (nonempty : records ≠ []) :
    ∃ roster, CourseRostered p input records ((Course.start p input client).run moves) roster :=
  rostered_moves input _ moves [] (rostered_start p input client records parsed nonempty)

end Courier
