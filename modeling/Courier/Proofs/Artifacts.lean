import Courier.Proofs.Numerals
import Courier.Proofs.Wire

set_option autoImplicit false

namespace Courier

namespace Fate

def map {α β : Type} (g : α → β) : Fate α → Fate β
  | .unwritable => .unwritable
  | .sent payload sending => .sent payload (g sending)

def success? : Record × Fate (Option Outcome) → Option Bytes
  | (r, .sent _ (some .delivered)) => some r.raw
  | _ => none

def failure? : Record × Fate (Option Outcome) → Option Bytes
  | (r, .unwritable) => some r.raw
  | (_, .sent payload (some (.failed _))) => some payload
  | _ => none

end Fate

-- The records with what became of them: each that can be written has the outcome of the call that
-- it is the turn of.
def Course.fates (p : Publisher) (records : List Record) (s : Course) :
    List (Record × Fate (Option Outcome)) :=
  p.format.fates records (s.handed.map fun call => call.outcome? s.given)

-- An artifact that is made of some parts, and of nothing when there are none. Its two own
-- attributes stand over those of the input; the count is read back as one of 64 bits.
structure Reports (side : Relationship) (topic : Text) (inherited : Attributes)
    (parts : List Bytes) (artifact : Option Artifact) : Prop where
  present : artifact.isSome ↔ parts ≠ []
  relationship : ∀ a ∈ artifact, a.relationship = side
  content : ∀ a ∈ artifact, a.content = parts.flatten
  attributes : ∀ a ∈ artifact, ∀ name, a.attributes[name]? =
    if name = Artifact.topicName then some topic
    else if name = Artifact.msgCount then some (Decimal.write parts.length)
    else inherited[name]?
  count : parts.length ≤ Decimal.max64 → ∀ a ∈ artifact, a.messageCount? = some parts.length

theorem artifact_attribute (topic count : Text) (attributes : Attributes) (name : Text) :
    ((attributes.insert Artifact.msgCount count).insert Artifact.topicName topic)[name]? =
      if name = Artifact.topicName then some topic
      else if name = Artifact.msgCount then some count
      else attributes[name]? := by
  rw [Std.ExtTreeMap.getElem?_insert, Std.ExtTreeMap.getElem?_insert]
  simp only [Std.LawfulEqCmp.compare_eq_iff_eq, @eq_comm Text _ name]

theorem artifact_reports (relationship : Relationship) (side : Std.ExtTreeMap Nat Bytes)
    (topic : Text) (attributes : Attributes) :
    Reports relationship topic attributes (side.toList.map Prod.snd)
      (Ledger.artifact? relationship side topic attributes) := by
  have size : (side.toList.map Prod.snd).length = side.size := by simp
  unfold Ledger.artifact?
  by_cases empty : side.isEmpty = true
  · have zero : side.size = 0 := by simpa [Std.ExtTreeMap.isEmpty_eq_size_beq_zero] using empty
    rw [if_pos empty]
    rw [zero, List.length_eq_zero_iff] at size
    refine ⟨?_, ?_, ?_, ?_, ?_⟩
    · simp [size]
    · simp
    · simp
    · simp
    · simp
  · have filled : side.size ≠ 0 := by simpa [Std.ExtTreeMap.isEmpty_eq_size_beq_zero] using empty
    rw [if_neg empty]
    refine ⟨?_, ?_, ?_, ?_, ?_⟩
    · rw [ne_eq, ← List.length_eq_zero_iff, size]
      simp [filled]
    · simp [Artifact.withAttribute]
    · simp [Artifact.withAttribute, List.flatMap]
    · simp only [Option.mem_def, Option.some.injEq, forall_eq', Artifact.withAttribute, size]
      exact artifact_attribute topic (Decimal.write side.size) attributes
    · intro fits
      rw [size] at fits ⊢
      have other : Artifact.msgCount ≠ Artifact.topicName := by decide
      simp only [Option.mem_def, Option.some.injEq, forall_eq', Artifact.withAttribute,
        Artifact.messageCount?, Artifact.attribute?]
      rw [artifact_attribute, if_neg other, if_pos rfl]
      exact Decimal.up_to_write _ _ fits

variable {p : Publisher} {attributes : Attributes} {records : List Record}
  {given : List (Nat × Signal)} {roster : List Entry}

theorem fates_roster {α : Type} (g : Call → α) (written : ∀ e ∈ roster, e.Written p attributes) :
    p.format.fates (roster.map Entry.record) ((roster.filterMap Entry.call?).map g) =
      roster.map fun e => (e.record, e.fate.2.map g) := by
  induction roster with
  | nil => rfl
  | cons e roster ih =>
    have later := ih fun other member => written other (List.mem_cons_of_mem e member)
    have here := written e List.mem_cons_self
    cases e with
    | unwritable r =>
      obtain ⟨fault, failed⟩ := here
      simp only [List.map_cons, List.filterMap_cons, Entry.call?, Entry.record, Entry.fate,
        Format.fates, failed, later, Fate.map]
    | sent r payload call phase =>
      obtain ⟨rendered, _⟩ := here
      simp only [List.map_cons, List.filterMap_cons, Entry.call?, Entry.record, Entry.fate,
        Format.fates, rendered, later, Fate.map]

theorem course_fates (input : Input) (s : Course)
    (rostered : CourseRostered p input records s roster) (resolved : s.batch.stage = .resolved) :
    s.fates p records =
      roster.map fun e => (e.record, e.fate.2.map fun call => call.outcome? s.given) := by
  rw [Course.fates, rostered_handed input s rostered, ← resolved_records input s rostered resolved,
    fates_roster _ rostered.mirrors.told.written]

theorem resolved_idle (input : Input) (s : Course)
    (rostered : CourseRostered p input records s roster)
    (resolved : s.batch.stage = .resolved) : ∀ e ∈ roster, e.inFlight? = none := by
  have held := Positions.views_size _ _ _ rostered.mirrors.tracker.inFlight
  rw [(rostered.stage.mp resolved).2] at held
  exact List.filterMap_eq_nil_iff.mp (List.eq_nil_of_length_eq_zero held.symm)

theorem idle_cases (given : List (Nat × Signal)) (e : Entry) (idle : e.inFlight? = none)
    (follows : e.Follows given) :
    (∃ r, e = .unwritable r) ∨ ∃ r payload call outcome,
      e = .sent r payload call (.entered outcome) ∧ call.outcome? given = some outcome := by
  cases e with
  | unwritable r => exact .inl ⟨r, rfl⟩
  | sent r payload call phase =>
    cases phase with
    | awaited signal => cases idle
    | queued outcome => cases idle
    | entered outcome => exact .inr ⟨r, payload, call, outcome, rfl, follows⟩

theorem idle_fate (given : List (Nat × Signal)) (e : Entry) (idle : e.inFlight? = none)
    (follows : e.Follows given) :
    Fate.success? (e.record, e.fate.2.map fun call => call.outcome? given) = e.success? ∧
      Fate.failure? (e.record, e.fate.2.map fun call => call.outcome? given) = e.failure? := by
  rcases idle_cases given e idle follows with ⟨r, rfl⟩ | ⟨r, payload, call, outcome, rfl, ended⟩
  · exact ⟨rfl, rfl⟩
  · simp only [Entry.fate, Entry.record, Fate.map, ended]
    cases outcome with
    | delivered => exact ⟨rfl, rfl⟩
    | failed report => exact ⟨rfl, rfl⟩

theorem fates_ledger (input : Input) (s : Course)
    (rostered : CourseRostered p input records s roster) (resolved : s.batch.stage = .resolved) :
    (s.fates p records).filterMap Fate.success? = s.batch.ledger.success.toList.map Prod.snd ∧
      (s.fates p records).filterMap Fate.failure? =
        s.batch.ledger.failure.toList.map Prod.snd := by
  have idle := resolved_idle input s rostered resolved
  have follows := rostered.mirrors.told.follows
  rw [course_fates input s rostered resolved, List.filterMap_map, List.filterMap_map,
    Positions.views_values _ _ _ rostered.mirrors.tracker.success,
    Positions.views_values _ _ _ rostered.mirrors.tracker.failure]
  constructor
  · apply List.filterMap_congr
    intro e member
    exact (idle_fate s.given e (idle e member) (follows e member)).1
  · apply List.filterMap_congr
    intro e member
    exact (idle_fate s.given e (idle e member) (follows e member)).2

theorem course_covered (input : Input) (s : Course)
    (rostered : CourseRostered p input records s roster)
    (resolved : s.batch.stage = .resolved) : (s.fates p records).map Prod.fst = records := by
  rw [course_fates input s rostered resolved, List.map_map]
  exact resolved_records input s rostered resolved

theorem course_total (input : Input) (s : Course)
    (rostered : CourseRostered p input records s roster) (resolved : s.batch.stage = .resolved) :
    ((s.fates p records).filterMap Fate.success?).length +
      ((s.fates p records).filterMap Fate.failure?).length = records.length := by
  obtain ⟨successes, failures⟩ := fates_ledger input s rostered resolved
  obtain ⟨taken, idle⟩ := rostered.stage.mp resolved
  have counted := mirrors_count rostered.mirrors
  rw [taken, idle] at counted
  rw [successes, failures]
  simpa [Ledger.successCount, Ledger.failureCount] using counted

theorem cycle_result (input : Input) (s : Course)
    (rostered : CourseRostered p input records s roster) (pending : s.batch.stage ≠ .resolved)
    (resolved : (s.step .cycle).batch.stage = .resolved) :
    ((s.batch.cycle s.client).1.success, (s.batch.cycle s.client).1.failure) =
      (s.step .cycle).batch.ledger.assemble p.settings.topic input.attributes := by
  obtain ⟨_, after⟩ := rostered_cycle input s rostered
  have settled := after.settled resolved
  rw [emitted_cycle, rostered.pending pending] at settled
  obtain ⟨success, failure⟩ := Prod.mk.inj settled
  have first := congrArg List.head? success
  have second := congrArg List.head? failure
  rw [List.nil_append, Option.head?_toList, Option.head?_toList] at first second
  exact Prod.ext first second

end Courier
