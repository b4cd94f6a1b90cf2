import Courier.Proofs.Partition

set_option autoImplicit false

/- A cycle with its assertions. The outer none stands for a failed one: an ordinal that is already
   under way is sent, an ordinal gets into both sides of the ledger, a batch resolves with an
   outcome missing. -/
namespace Courier

def Tracker.submitChecked (t : Tracker) (r : Record) (c : Client) :
    Option (Submission × Tracker × Client) :=
  match t.format.render r with
  | .error _ => some (t.submit r c)
  | .ok _ =>
    if t.hasCapacity && t.inFlight.contains r.ordinal then none else some (t.submit r c)

def Ledger.recordSuccessChecked (l : Ledger) (ordinal : Nat) (octets : Bytes) : Option Ledger :=
  if l.failure.contains ordinal then none else some (l.recordSuccess ordinal octets)

def Ledger.recordFailureChecked (l : Ledger) (ordinal : Nat) (octets : Bytes) : Option Ledger :=
  if l.success.contains ordinal then none else some (l.recordFailure ordinal octets)

namespace Batch

def handOverChecked : List Record → Admission → Option (List Record × Admission)
  | [], a => some ([], a)
  | r :: rest, ⟨tracker, ledger, client, submitted, resolved⟩ =>
    match tracker.submitChecked r client with
    | none => none
    | some (.accepted, tracker, client) =>
      handOverChecked rest ⟨tracker, ledger, client, submitted + 1, resolved⟩
    | some (.rejected back _, tracker, client) =>
      match ledger.recordFailureChecked back.ordinal back.raw with
      | none => none
      | some ledger => handOverChecked rest ⟨tracker, ledger, client, submitted, resolved + 1⟩
    | some (.deferred back, tracker, client) =>
      some (back :: rest, ⟨tracker, ledger, client, submitted, resolved⟩)

def enterChecked (l : Ledger) (c : Completion) : Option Ledger :=
  match c.outcome with
  | .delivered => l.recordSuccessChecked c.record.ordinal c.record.raw
  | .failed _ => l.recordFailureChecked c.record.ordinal c.payload

def enterAllChecked : List Completion → Ledger → Option Ledger
  | [], l => some l
  | c :: rest, l =>
    match enterChecked l c with
    | none => none
    | some l => enterAllChecked rest l

def advanceChecked (b : Batch) (c : Client) : Option (CycleResult × Batch × Client) :=
  match handOverChecked b.unsubmitted (b.admission c) with
  | none => none
  | some (unsubmitted, a) =>
    match enterAllChecked a.tracker.poll.1.toList a.ledger with
    | none => none
    | some ledger =>
      if stageOf unsubmitted a.tracker.poll.2 == .resolved && ledger.resolvedCount != b.recordCount
      then none
      else some (b.advance c)

def cycleChecked (b : Batch) (c : Client) : Option (CycleResult × Batch × Client) :=
  if b.stage == .resolved || b.unreadable.isSome then some (b.cycle c) else b.advanceChecked c

end Batch

variable {p : Publisher} {attributes : Attributes} {records : List Record} {first : Nat}
  {given : List (Nat × Signal)} {roster : List Entry} {rest : List Record}
  {t : Tracker} {l : Ledger} {c : Client}

theorem submit_checked (r : Record)
    (mirrors : Mirrors p attributes records first given roster (r :: rest) t l c) :
    t.submitChecked r c = some (t.submit r c) := by
  have fresh : t.inFlight[r.ordinal]? = none := by
    rw [mirrors.tracker.inFlight, mirrors_next r mirrors, List.getElem?_eq_none (by omega)]
    rfl
  have absent : t.inFlight.contains r.ordinal = false := by
    rw [Std.ExtTreeMap.contains_eq_isSome_getElem?, fresh]
    rfl
  unfold Tracker.submitChecked
  cases t.format.render r with
  | error fault => rfl
  | ok payload => simp [absent]

theorem reject_checked (r : Record)
    (mirrors : Mirrors p attributes records first given roster (r :: rest) t l c) :
    l.recordFailureChecked r.ordinal r.raw = some (l.recordFailure r.ordinal r.raw) := by
  have fresh : l.success[r.ordinal]? = none := by
    rw [mirrors.tracker.success, mirrors_next r mirrors, List.getElem?_eq_none (by omega)]
    rfl
  have absent : l.success.contains r.ordinal = false := by
    rw [Std.ExtTreeMap.contains_eq_isSome_getElem?, fresh]
    rfl
  simp [Ledger.recordFailureChecked, absent]

theorem hand_over_checked (rest : List Record) (a : Batch.Admission) (roster : List Entry)
    (mirrors : Mirrors p attributes records first given roster rest a.tracker a.ledger a.client) :
    Batch.handOverChecked rest a = some (Batch.handOver rest a) := by
  induction rest generalizing a roster with
  | nil => rfl
  | cons r rest ih =>
    obtain ⟨t, l, c, submitted, resolved⟩ := a
    have submitting := submit_checked r mirrors
    rw [Batch.handOver, Batch.handOverChecked]
    rcases mirrors_submit r mirrors with ⟨c', next, _⟩ | ⟨fault, next, after⟩ |
      ⟨t', c', e, next, after⟩
    · rw [next] at submitting
      simp only [next, submitting]
    · rw [next] at submitting
      have rejecting := reject_checked r mirrors
      simp only [next, submitting, rejecting]
      exact ih _ _ after
    · rw [next] at submitting
      simp only [next, submitting]
      exact ih _ _ after

theorem enter_checked (l : Ledger) (c : Completion)
    (success : l.success[c.record.ordinal]? = none)
    (failure : l.failure[c.record.ordinal]? = none) :
    Batch.enterChecked l c = some (Batch.enter l c) := by
  unfold Batch.enterChecked Batch.enter
  cases c.outcome with
  | delivered =>
    simp [Ledger.recordSuccessChecked, Std.ExtTreeMap.contains_eq_isSome_getElem?, failure]
  | failed report =>
    simp [Ledger.recordFailureChecked, Std.ExtTreeMap.contains_eq_isSome_getElem?, success]

theorem enter_all_checked (completions : List Completion) (l : Ledger)
    (once : (completions.map (·.record.ordinal)).Nodup)
    (fresh : ∀ c ∈ completions,
      l.success[c.record.ordinal]? = none ∧ l.failure[c.record.ordinal]? = none) :
    Batch.enterAllChecked completions l = some (completions.foldl Batch.enter l) := by
  induction completions generalizing l with
  | nil => rfl
  | cons d rest ih =>
    obtain ⟨apart, later⟩ := List.nodup_cons.mp once
    obtain ⟨success, failure⟩ := fresh d List.mem_cons_self
    have first := enter_checked l d success failure
    simp only [Batch.enterAllChecked, first, List.foldl_cons]
    apply ih (Batch.enter l d) later
    intro c member
    have different : d.record.ordinal ≠ c.record.ordinal := by
      intro same
      exact apart (List.mem_map.mpr ⟨c, member, same.symm⟩)
    rw [Batch.enter_success, Batch.enter_failure, if_neg different, if_neg different]
    exact fresh c (List.mem_cons_of_mem d member)

theorem collect_checked (mirrors : Mirrors p attributes records first given roster rest t l c) :
    Batch.enterAllChecked t.poll.1.toList l = some (t.poll.1.foldl Batch.enter l) := by
  obtain ⟨completions, _, _⟩ := t.poll_spec mirrors.tracker.once
  have ordinals := completions_ordinals roster t l mirrors.tracker (mirrors_placed mirrors)
  rw [← completions] at ordinals
  rw [← Array.foldl_toList]
  apply enter_all_checked _ _ (ordinals ▸ mirrors.tracker.once)
  intro d member
  have queued : d.record.ordinal ∈ t.finished.toList.map Prod.fst := by
    rw [← ordinals]
    exact List.mem_map_of_mem member
  obtain ⟨⟨i, o⟩, waiting, same⟩ := List.mem_map.mp queued
  obtain ⟨r, payload, call, found, _⟩ := tracker_completion roster t l mirrors.tracker i o waiting
  dsimp only at same
  rw [mirrors.tracker.success, mirrors.tracker.failure, ← same, found]
  exact ⟨rfl, rfl⟩

theorem cycle_checked (input : Input) (s : Course)
    (rostered : CourseRostered p input records s roster) :
    s.batch.cycleChecked s.client = some (s.batch.cycle s.client) := by
  by_cases resolved : s.batch.stage = .resolved
  · simp [Batch.cycleChecked, resolved]
  · have handing := hand_over_checked s.batch.unsubmitted (s.batch.admission s.client) roster
      rostered.mirrors
    obtain ⟨fresh, handed⟩ := mirrors_handOver s.batch.unsubmitted
      (s.batch.admission s.client) roster rostered.mirrors
    have collecting := collect_checked handed
    have counted := mirrors_count (mirrors_collect handed)
    rw [s.batch.cycle_readable s.client resolved rostered.readable]
    simp only [Batch.cycleChecked, Batch.advanceChecked, handing, collecting, rostered.readable,
      rostered.count, resolved, Option.isSome_none, Bool.or_false, beq_iff_eq, if_false]
    rw [if_neg]
    rw [Bool.and_eq_true, beq_iff_eq, stage_resolved, bne_iff_ne]
    rintro ⟨⟨taken, idle⟩, missing⟩
    apply missing
    rw [taken, idle] at counted
    simpa [Ledger.resolvedCount] using counted

-- Where the records of a batch are, with what the next cycle asserts of that.
structure Partitioned (records : List Record) (b : Batch) (c : Client) : Prop where
  count : b.recordCount = records.length
  remaining : b.unsubmitted.length ≤ b.recordCount
  suffix : b.unsubmitted = records.drop b.submittedCount ∧
    b.unsubmitted.map Record.ordinal = List.range' b.submittedCount b.unsubmitted.length
  split : (b.unsubmitted.map Record.ordinal ++ b.tracker.inFlight.keys ++
    b.ledger.success.keys ++ b.ledger.failure.keys).Perm (List.range records.length)
  filed : ∀ (i : Nat) (f : InFlight), b.tracker.inFlight[i]? = some f → records[i]? = some f.record
  waits : (b.tracker.awaited.toList.map (·.2.ordinal) ++
    b.tracker.finished.toList.map Prod.fst).Perm b.tracker.inFlight.keys
  asserted : b.cycleChecked c = some (b.cycle c)
  resolved : b.ledger.successCount + b.ledger.failureCount = records.length ↔ b.stage = .resolved

/-- At every point of every course each record is in one part of its batch, and no assertion fails.
-/
theorem course_partitioned (p : Publisher) (input : Input) (client : Client) (moves : List Move)
    (records : List Record) (parsed : p.format.parse p.key input.content = .ok records)
    (nonempty : records ≠ []) :
    Partitioned records ((Course.start p input client).run moves).batch
      ((Course.start p input client).run moves).client := by
  obtain ⟨roster, rostered⟩ := rostered_run input client moves parsed nonempty
  generalize (Course.start p input client).run moves = s at rostered
  have ordinals := (mirrors_rest rostered.mirrors).1
  have taken := rostered_taken input s rostered
  have counted := mirrors_count rostered.mirrors
  refine ⟨rostered.count, ?_, ⟨?_, ?_⟩, mirrors_split rostered.mirrors, ?_,
    mirrors_waits rostered.mirrors,
    cycle_checked input s rostered, ?_⟩
  · rw [rostered.count]
    omega
  · rw [taken, ← rostered.mirrors.told.taken, List.drop_left' (by simp)]
  · rw [taken, ordinals]
  · intro i f held
    rw [rostered.mirrors.tracker.inFlight] at held
    obtain ⟨e, found, view⟩ := Option.bind_eq_some_iff.mp held
    have same : f.record = e.record := by
      cases e with
      | unwritable r => cases view
      | sent r payload call phase => cases phase <;> cases view <;> rfl
    rw [← rostered.mirrors.told.taken, List.getElem?_append_left, List.getElem?_map, found, same]
    · rfl
    · simpa using (List.getElem?_eq_some_iff.mp found).1
  · rw [rostered.stage]
    constructor
    · intro all
      exact ⟨List.eq_nil_of_length_eq_zero (by omega), by omega⟩
    · rintro ⟨taken, idle⟩
      rw [taken] at counted
      simpa [idle] using counted

theorem sample_partitioned :
    Sample.publisher.format.parse Sample.publisher.key Sample.input.content =
        .ok Sample.records ∧
      Partitioned Sample.records Sample.course.batch Sample.course.client :=
  ⟨rfl, course_partitioned Sample.publisher Sample.input Sample.client Sample.moves
    Sample.records rfl (by decide)⟩

end Courier
