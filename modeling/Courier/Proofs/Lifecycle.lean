import Courier.Proofs.Artifacts
import Courier.Proofs.Driving
import Courier.Proofs.Slots
import Mathlib.Data.List.Induction

set_option autoImplicit false

namespace Courier

namespace Batch

def Stage.rank : Stage → Nat
  | .opened => 0
  | .draining => 1
  | .resolved => 2

def CycleResult.emits (r : CycleResult) : Bool := r.success.isSome || r.failure.isSome

theorem rank_resolved (stage : Stage) : stage.rank ≤ Stage.resolved.rank := by
  cases stage <;> decide

theorem stage_pending (unsubmitted : List Record) (t : Tracker) :
    (stageOf unsubmitted t = .opened ↔ unsubmitted ≠ []) ∧
      (stageOf unsubmitted t = .draining ↔ unsubmitted = [] ∧ 0 < t.inFlight.size) := by
  cases unsubmitted with
  | cons r rest => simp [stageOf]
  | nil =>
    by_cases held : 0 < t.inFlight.size
    · simp [stageOf, held]
    · simp [stageOf, held]

structure Stands (b : Batch) : Prop where
  opened : b.stage = .opened ↔ b.unsubmitted ≠ []
  draining : b.stage = .draining ↔ b.unsubmitted = [] ∧ 0 < b.inFlight
  resolved : b.stage = .resolved ↔ b.unsubmitted = [] ∧ b.inFlight = 0

theorem staged_stands (b : Batch) (staged : b.stage = stageOf b.unsubmitted b.tracker) :
    b.Stands := by
  obtain ⟨opened, draining⟩ := stage_pending b.unsubmitted b.tracker
  have resolved := stage_resolved b.unsubmitted b.tracker
  rw [← staged] at opened draining resolved
  exact ⟨opened, draining, resolved⟩

theorem cycle_pending (b : Batch) (c : Client) :
    (b.cycle c).1.stillPending = true ↔ (b.cycle c).2.1.stage ≠ .resolved := by
  rcases b.cycle_cases c with ⟨resolved, next⟩ | ⟨_, _, next⟩ | ⟨_, _, next⟩
  · simp [next, resolved]
  · simp [next]
  · rw [next, (b.advance_spec c).1, (b.advance_spec c).2]
    simp

theorem emits_resolves (b : Batch) (c : Client) (emits : (b.cycle c).1.emits = true) :
    b.stage ≠ .resolved ∧ (b.cycle c).2.1.stage = .resolved := by
  refine ⟨fun resolved => ?_, ?_⟩
  · rw [b.cycle_resolved c resolved] at emits
    cases emits
  · by_contra pending
    obtain ⟨success, failure⟩ := pending_cycle b c ((b.cycle_pending c).mpr pending)
    rw [CycleResult.emits, success, failure] at emits
    cases emits

theorem advance_taken (b : Batch) (c : Client) (taken : b.unsubmitted = []) :
    (b.advance c).2.1.stage ≠ .opened := by
  rw [(b.advance_spec c).1, ne_eq, (stage_pending _ _).1, taken]
  simp [handOver]

theorem advance_onward (b : Batch) (c : Client) (stands : b.Stands)
    (pending : b.stage ≠ .resolved) : b.stage.rank ≤ (b.advance c).2.1.stage.rank := by
  by_cases taken : b.unsubmitted = []
  · have now : b.stage ≠ .opened := fun opened => stands.opened.mp opened taken
    have next := b.advance_taken c taken
    cases stage : b.stage with
    | opened => exact absurd stage now
    | resolved => exact absurd stage pending
    | draining =>
      cases after : (b.advance c).2.1.stage with
      | opened => exact absurd after next
      | draining => exact Nat.le_refl _
      | resolved => exact rank_resolved .draining
  · rw [stands.opened.mpr taken]
    exact Nat.zero_le _

theorem cycle_onward (b : Batch) (c : Client)
    (stands : b.stage ≠ .resolved → b.unreadable = none → b.Stands) :
    b.stage.rank ≤ (b.cycle c).2.1.stage.rank := by
  rcases b.cycle_cases c with ⟨_, next⟩ | ⟨_, _, next⟩ | ⟨pending, readable, next⟩
  · exact Nat.le_of_eq (by rw [next])
  · rw [next]
    exact rank_resolved b.stage
  · rw [next]
    exact b.advance_onward c (stands pending readable) pending

end Batch

variable {p : Publisher} {records : List Record} {roster : List Entry}

theorem Course.run_concat (s : Course) (moves : List Move) (m : Move) :
    s.run (moves ++ [m]) = (s.run moves).step m := s.run_append moves [m]

theorem course_staged (input : Input) (client : Client) (moves : List Move)
    (parsed : p.format.parse p.key input.content = .ok records) (nonempty : records ≠ []) :
    ((Course.start p input client).run moves).batch.stage =
      Batch.stageOf ((Course.start p input client).run moves).batch.unsubmitted
        ((Course.start p input client).run moves).batch.tracker := by
  induction moves using List.reverseRecOn with
  | nil =>
    have read := read_parsed p input.content records parsed nonempty
    have opened : p.openBatch input = .new input records none (p.tracker input.attributes) := by
      simp [Publisher.openBatch, read]
    have stage := (Batch.stage_pending records (p.tracker input.attributes)).1.mpr nonempty
    simpa [Course.run, Course.start, opened, Batch.new] using stage.symm
  | append_singleton moves m ih =>
    obtain ⟨roster, rostered⟩ := rostered_run input client moves parsed nonempty
    rw [Course.run_concat]
    generalize (Course.start p input client).run moves = s at ih rostered ⊢
    cases m with
    | event e =>
      simp only [Course.step, Batch.stageOf, (s.batch.tracker.apply_frame e).2.2.2.2]
      exact ih
    | cycle =>
      by_cases resolved : s.batch.stage = .resolved
      · simp only [Course.step, s.batch.cycle_resolved s.client resolved]
        exact ih
      · simp only [Course.step, s.batch.cycle_readable s.client resolved rostered.readable,
          (s.batch.advance_spec s.client).1]

theorem step_onward (p : Publisher) (input : Input) (client : Client) (moves : List Move)
    (m : Move) :
    ((Course.start p input client).run moves).batch.stage.rank ≤
      (((Course.start p input client).run moves).step m).batch.stage.rank := by
  cases m with
  | event e => exact Nat.le_refl _
  | cycle =>
    refine Batch.cycle_onward _ _ fun pending readable => ?_
    rcases read_cases p input.content with ⟨fault, read⟩ | ⟨records, parsed, nonempty⟩
    · have unreadable := ((barren_run input _ moves
        (barren_start p input client fault read)).pending pending).1
      rw [readable] at unreadable
      cases unreadable
    · exact Batch.staged_stands _ (course_staged input client moves parsed nonempty)

theorem run_onward (p : Publisher) (input : Input) (client : Client) (moves more : List Move) :
    ((Course.start p input client).run moves).batch.stage.rank ≤
      (((Course.start p input client).run moves).run more).batch.stage.rank := by
  induction more generalizing moves with
  | nil => exact Nat.le_refl _
  | cons m more ih =>
    have later := ih (moves ++ [m])
    rw [Course.run_concat] at later
    exact Nat.le_trans (step_onward p input client moves m) later

theorem rostered_emits (input : Input) (s : Course)
    (rostered : CourseRostered p input records s roster) (nonempty : records ≠ [])
    (pending : s.batch.stage ≠ .resolved)
    (resolved : (s.step .cycle).batch.stage = .resolved) :
    (s.batch.cycle s.client).1.emits = true := by
  have result := cycle_result input s rostered pending resolved
  obtain ⟨fresh, after⟩ := rostered_cycle input s rostered
  obtain ⟨taken, idle⟩ := after.stage.mp resolved
  have counted := mirrors_count after.mirrors
  have some_records := List.length_pos_iff.mpr nonempty
  rw [taken, idle] at counted
  generalize (s.step .cycle).batch.ledger = l at result counted
  obtain ⟨success, failure⟩ := Prod.mk.inj result
  have filled (relationship : Relationship) (side : Std.ExtTreeMap Nat Bytes)
      (holds : side.size ≠ 0) : (Ledger.artifact? relationship side p.settings.topic
        input.attributes).isSome = true := by
    rw [(artifact_reports relationship side _ _).present, ne_eq, ← List.length_eq_zero_iff]
    simpa using holds
  rw [Batch.CycleResult.emits, success, failure, Bool.or_eq_true]
  by_cases delivered : l.successCount = 0
  · rw [delivered] at counted
    refine .inr (filled _ l.failure ?_)
    change l.failureCount ≠ 0
    simp only [List.length_nil] at counted
    omega
  · exact .inl (filled _ l.success delivered)

theorem barren_cycle (input : Input) (s : Course) (barren : Barren p input s)
    (pending : s.batch.stage ≠ .resolved) :
    (s.step .cycle).batch.stage = .resolved ∧ (s.batch.cycle s.client).1.success = none ∧
      ∃ a, (s.batch.cycle s.client).1.failure = some a ∧ a.relationship = .failure ∧
        a.content = input.content := by
  obtain ⟨fault, unreadable⟩ := Option.isSome_iff_exists.mp (barren.pending pending).1
  rw [Course.step, s.batch.cycle_unreadable s.client fault pending unreadable]
  exact ⟨rfl, rfl, _, rfl, rfl, congrArg Input.content barren.source⟩

theorem course_emits (p : Publisher) (input : Input) (client : Client) (moves : List Move) :
    (((Course.start p input client).run moves).batch.cycle
        ((Course.start p input client).run moves).client).1.emits = true ↔
      ((Course.start p input client).run moves).batch.stage ≠ .resolved ∧
        (((Course.start p input client).run moves).step .cycle).batch.stage = .resolved := by
  refine ⟨Batch.emits_resolves _ _, fun ⟨pending, resolved⟩ => ?_⟩
  rcases read_cases p input.content with ⟨fault, read⟩ | ⟨records, parsed, nonempty⟩
  · obtain ⟨_, _, a, failed, _⟩ := barren_cycle input _ (barren_run input _ moves
      (barren_start p input client fault read)) pending
    rw [Batch.CycleResult.emits, failed, Option.isSome_some, Bool.or_true]
  · obtain ⟨roster, rostered⟩ := rostered_run input client moves parsed nonempty
    exact rostered_emits input _ rostered nonempty pending resolved

theorem course_once (p : Publisher) (input : Input) (client : Client) (moves : List Move) :
    (((Course.start p input client).run moves).results.filter
        Batch.CycleResult.emits).length =
      if ((Course.start p input client).run moves).batch.stage = .resolved then 1 else 0 := by
  induction moves using List.reverseRecOn with
  | nil => rfl
  | append_singleton moves m ih =>
    have emits := course_emits p input client moves
    rw [Course.run_concat]
    generalize (Course.start p input client).run moves = s at ih emits ⊢
    cases m with
    | event e => exact ih
    | cycle =>
      have grown : (s.step .cycle).results = s.results ++ [(s.batch.cycle s.client).1] := rfl
      rw [grown, List.filter_append, List.length_append, ih]
      by_cases brought : (s.batch.cycle s.client).1.emits = true
      · obtain ⟨pending, resolved⟩ := emits.mp brought
        rw [List.filter_cons_of_pos brought, if_neg pending, if_pos resolved]
        rfl
      · rw [List.filter_cons_of_neg brought]
        by_cases resolved : s.batch.stage = .resolved
        · have still : (s.step .cycle).batch = s.batch := by
            rw [Course.step, s.batch.cycle_resolved s.client resolved]
          rw [still]
          rfl
        · have next : (s.step .cycle).batch.stage ≠ .resolved := fun ended =>
            brought (emits.mpr ⟨resolved, ended⟩)
          rw [if_neg resolved, if_neg next]
          rfl

theorem barren_silent (p : Publisher) (input : Input) (client : Client) (moves : List Move)
    (fault : Unreadable) (read : p.read input.content = ([], some fault)) :
    ((Course.start p input client).run moves).client = client := by
  induction moves using List.reverseRecOn with
  | nil => rfl
  | append_singleton moves m ih =>
    rw [Course.run_concat]
    cases m with
    | event e => exact ih
    | cycle =>
      exact (barren_client input _ (barren_run input _ moves
        (barren_start p input client fault read))).trans ih

-- The life of a batch at a point of a course, with what the next cycle does there.
structure Lifecycle (p : Publisher) (input : Input) (client : Client) (s : Course) : Prop where
  onward : ∀ more, s.batch.stage.rank ≤ (s.run more).batch.stage.rank
  stands : ∀ records, p.format.parse p.key input.content = .ok records → records ≠ [] →
    s.batch.Stands
  pending : (s.batch.cycle s.client).1.stillPending = true ↔
    (s.step .cycle).batch.stage ≠ .resolved
  emits : (s.batch.cycle s.client).1.emits = true ↔
    s.batch.stage ≠ .resolved ∧ (s.step .cycle).batch.stage = .resolved
  once : (s.results.filter Batch.CycleResult.emits).length =
    if s.batch.stage = .resolved then 1 else 0
  late : s.batch.stage = .resolved → s.batch.cycle s.client =
    ({ stillPending := false, success := none, failure := none, submitted := 0, resolved := 0 },
      s.batch, s.client)
  silent : (∀ records, p.format.parse p.key input.content = .ok records → records = []) →
    s.client = client
  whole : (∀ records, p.format.parse p.key input.content = .ok records → records = []) →
    s.results = [] →
      (s.step .cycle).batch.stage = .resolved ∧ (s.batch.cycle s.client).1.success = none ∧
        ∃ a, (s.batch.cycle s.client).1.failure = some a ∧ a.relationship = .failure ∧
          a.content = input.content

theorem read_nothing (p : Publisher) (content : Bytes)
    (nothing : ∀ records, p.format.parse p.key content = .ok records → records = []) :
    ∃ fault, p.read content = ([], some fault) := by
  rcases read_cases p content with unreadable | ⟨records, parsed, nonempty⟩
  · exact unreadable
  · exact absurd (nothing records parsed) nonempty

/-- Stages come in one order, and the artifacts with the one cycle that ends the batch. -/
theorem course_lifecycle (p : Publisher) (input : Input) (client : Client) (moves : List Move) :
    Lifecycle p input client ((Course.start p input client).run moves) where
  onward := run_onward p input client moves
  stands records parsed nonempty :=
    Batch.staged_stands _ (course_staged input client moves parsed nonempty)
  pending := Batch.cycle_pending _ _
  emits := course_emits p input client moves
  once := course_once p input client moves
  late := Batch.cycle_resolved _ _
  silent nothing := by
    obtain ⟨fault, read⟩ := read_nothing p input.content nothing
    exact barren_silent p input client moves fault read
  whole nothing early := by
    obtain ⟨fault, read⟩ := read_nothing p input.content nothing
    refine barren_cycle input _ (barren_run input _ moves
      (barren_start p input client fault read)) fun resolved => ?_
    have once := course_once p input client moves
    rw [early, if_pos resolved] at once
    cases once

example : ((Course.start Sample.publisher { content := [120, 10, 34] } Sample.client).run
    [.cycle, .cycle]).emitted.2.map Artifact.content = [[120, 10, 34]] := by decide

end Courier
