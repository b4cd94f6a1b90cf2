import Courier.Proofs.Voyage

set_option autoImplicit false

namespace Courier

variable {p : Publisher}

structure Barren (p : Publisher) (input : Input) (s : Course) : Prop where
  source : s.batch.input = input
  topic : s.batch.tracker.topic = p.settings.topic
  silent : s.calls = []
  pending : s.batch.stage ≠ .resolved → s.batch.unreadable.isSome ∧ s.emitted = ([], [])
  settled : s.batch.stage = .resolved → s.emitted =
    ([], [{ relationship := .failure, content := input.content,
            attributes := input.attributes.insert Artifact.topicName p.settings.topic }])

theorem barren_start (p : Publisher) (input : Input) (client : Client) (fault : Unreadable)
    (read : p.read input.content = ([], some fault)) :
    Barren p input (Course.start p input client) := by
  have opened : p.openBatch input = .new input [] (some fault) (p.tracker input.attributes) := by
    simp [Publisher.openBatch, read]
  constructor
  · simp [Course.start, opened, Batch.new]
  · simp [Course.start, opened, Batch.new, Publisher.tracker, Tracker.new]
  · exact client.callsFrom_size
  · simp [Course.start, opened, Batch.new, Course.emitted]
  · simp [Course.start, opened, Batch.new]

theorem barren_step (input : Input) (s : Course) (m : Move) (barren : Barren p input s) :
    Barren p input (s.step m) := by
  cases m with
  | event e =>
    obtain ⟨_, topic, _, _, _⟩ := s.batch.tracker.apply_frame e
    exact ⟨barren.source, topic.trans barren.topic, barren.silent, barren.pending, barren.settled⟩
  | cycle =>
    have emitted := emitted_cycle s
    by_cases resolved : s.batch.stage = .resolved
    · have idle := s.batch.cycle_resolved s.client resolved
      have before := barren.settled resolved
      rw [idle, before] at emitted
      constructor
      · simpa [Course.step, idle] using barren.source
      · simpa [Course.step, idle] using barren.topic
      · simpa [Course.step, idle, Course.calls] using barren.silent
      · simp [Course.step, idle, resolved]
      · intro _
        exact emitted
    · obtain ⟨unreadable, before⟩ := barren.pending resolved
      obtain ⟨fault, found⟩ := Option.isSome_iff_exists.mp unreadable
      have last := s.batch.cycle_unreadable s.client fault resolved found
      rw [last, before] at emitted
      constructor
      · simpa [Course.step, last] using barren.source
      · simpa [Course.step, last] using barren.topic
      · simpa [Course.step, last, Course.calls] using barren.silent
      · simp [Course.step, last]
      · intro _
        rw [emitted, ← barren.source, ← barren.topic]
        rfl

theorem barren_run (input : Input) (s : Course) (moves : List Move) (barren : Barren p input s) :
    Barren p input (s.run moves) := by
  induction moves generalizing s with
  | nil => exact barren
  | cons m moves ih => exact ih _ (barren_step input s m barren)

theorem barren_bare (p : Publisher) (input : Input) (client : Client) (moves : List Move)
    (fault : Unreadable) (read : p.read input.content = ([], some fault)) :
    ((Course.start p input client).run moves).batch.unsubmitted = [] ∧
      ((Course.start p input client).run moves).batch.ledger = {} ∧
      ((Course.start p input client).run moves).batch.recordCount = 0 ∧
      ((Course.start p input client).run moves).batch.tracker.inFlight = ∅ := by
  have opened : p.openBatch input = .new input [] (some fault) (p.tracker input.attributes) := by
    simp [Publisher.openBatch, read]
  have steps (s : Course) (barren : Barren p input s) :
      (s.run moves).batch.unsubmitted = s.batch.unsubmitted ∧
        (s.run moves).batch.ledger = s.batch.ledger ∧
        (s.run moves).batch.recordCount = s.batch.recordCount ∧
        (s.run moves).batch.tracker.inFlight = s.batch.tracker.inFlight := by
    induction moves generalizing s with
    | nil => exact ⟨rfl, rfl, rfl, rfl⟩
    | cons m moves ih =>
      obtain ⟨unsubmitted, ledger, count, held⟩ := ih (s.step m) (barren_step input s m barren)
      rw [Course.run, List.foldl_cons, ← Course.run, unsubmitted, ledger, count, held]
      cases m with
      | event e => exact ⟨rfl, rfl, rfl, (s.batch.tracker.apply_frame e).2.2.2.2⟩
      | cycle =>
        by_cases resolved : s.batch.stage = .resolved
        · simp only [Course.step, s.batch.cycle_resolved s.client resolved, and_self]
        · obtain ⟨fault, found⟩ := Option.isSome_iff_exists.mp (barren.pending resolved).1
          simp only [Course.step, s.batch.cycle_unreadable s.client fault resolved found, and_self]
  have start := steps _ (barren_start p input client fault read)
  rw [Course.start, opened] at start ⊢
  exact start

theorem read_cases (p : Publisher) (content : Bytes) :
    (∃ fault, p.read content = ([], some fault)) ∨
      ∃ records, p.format.parse p.key content = .ok records ∧ records ≠ [] := by
  unfold Publisher.read
  cases parsed : p.format.parse p.key content with
  | error fault => exact .inl ⟨.malformed fault, rfl⟩
  | ok records =>
    cases records with
    | nil => exact .inl ⟨.empty, rfl⟩
    | cons r records => exact .inr ⟨r :: records, rfl, by simp⟩

end Courier
