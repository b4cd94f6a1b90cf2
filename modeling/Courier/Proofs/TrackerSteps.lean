import Courier.Publish.Batch

set_option autoImplicit false

namespace Courier.Tracker

theorem submit_full (t : Tracker) (r : Record) (c : Client) (full : t.hasCapacity = false) :
    t.submit r c = (.deferred r, t, c) := by
  rw [submit, full]
  rfl

theorem submit_unwritable (t : Tracker) (r : Record) (c : Client) (fault : Unwritable)
    (room : t.hasCapacity = true) (failed : t.format.render r = .error fault) :
    t.submit r c = (.rejected r fault, t, c) := by
  rw [submit, room, failed]
  rfl

theorem submit_cases (t : Tracker) (r : Record) (c : Client) :
    (t.hasCapacity = false ∧ t.submit r c = (.deferred r, t, c)) ∨
    (t.hasCapacity = true ∧ ∃ fault, t.format.render r = .error fault ∧
      t.submit r c = (.rejected r fault, t, c)) ∨
    (t.hasCapacity = true ∧ ∃ payload, t.format.render r = .ok payload ∧
      ((∃ note, c.answer c.calls.size (t.message r payload) = .full note ∧
          t.submit r c = (.deferred r, t, (c.publish (t.message r payload)).2)) ∨
        (∃ report, c.answer c.calls.size (t.message r payload) = .refused report ∧
          t.submit r c = (.accepted, (t.hold r payload).finish r.ordinal (.failed report),
            (c.publish (t.message r payload)).2)) ∨
        (∃ signal, c.answer c.calls.size (t.message r payload) = .taken signal ∧
          t.submit r c = (.accepted, (t.hold r payload).await c.calls.size r.ordinal signal,
            (c.publish (t.message r payload)).2)))) := by
  by_cases capacity : t.hasCapacity = true
  · cases rendered : t.format.render r with
    | error fault =>
      exact .inr (.inl ⟨capacity, fault, rfl, t.submit_unwritable r c fault capacity rendered⟩)
    | ok payload =>
      refine .inr (.inr ⟨capacity, payload, rfl, ?_⟩)
      cases answer : c.answer c.calls.size (t.message r payload) with
      | full note =>
        exact .inl ⟨note, rfl, by simp [submit, capacity, rendered, Client.publish, answer]⟩
      | refused report =>
        exact .inr (.inl ⟨report, rfl, by
          simp [submit, capacity, rendered, Client.publish, answer]⟩)
      | taken signal =>
        exact .inr (.inr ⟨signal, rfl, by
          simp [submit, capacity, rendered, Client.publish, answer]⟩)
  · rw [Bool.not_eq_true] at capacity
    exact .inl ⟨capacity, t.submit_full r c capacity⟩

theorem apply_resolve_cases (t : Tracker) (number : Nat) (signal : Signal) :
    (∃ ordinal, t.awaited[number]? = some ⟨ordinal, none⟩ ∧
      t.apply (.resolve number signal) = t.await number ordinal (some signal)) ∨
    ((∀ ordinal, t.awaited[number]? ≠ some ⟨ordinal, none⟩) ∧
      t.apply (.resolve number signal) = t) := by
  cases found : t.awaited[number]? with
  | none => exact .inr ⟨by simp, by simp [apply, found]⟩
  | some a =>
    obtain ⟨ordinal, _ | old⟩ := a
    · exact .inl ⟨ordinal, rfl, by simp [apply, found]⟩
    · exact .inr ⟨by simp, by simp [apply, found]⟩

theorem apply_run_cases (t : Tracker) (number : Nat) :
    (∃ ordinal signal, t.awaited[number]? = some ⟨ordinal, some signal⟩ ∧
      t.apply (.run number) =
        { t with awaited := t.awaited.erase number }.finish ordinal signal.outcome) ∨
    ((∀ ordinal signal, t.awaited[number]? ≠ some ⟨ordinal, some signal⟩) ∧
      t.apply (.run number) = t) := by
  cases found : t.awaited[number]? with
  | none => exact .inr ⟨by simp, by simp [apply, found]⟩
  | some a =>
    obtain ⟨ordinal, _ | signal⟩ := a
    · exact .inr ⟨by simp, by simp [apply, found]⟩
    · exact .inl ⟨ordinal, signal, rfl, by simp [apply, found]⟩

theorem apply_frame (t : Tracker) (e : Event) :
    (t.apply e).format = t.format ∧ (t.apply e).topic = t.topic ∧
      (t.apply e).properties = t.properties ∧ (t.apply e).ceiling = t.ceiling ∧
      (t.apply e).inFlight = t.inFlight := by
  cases e with
  | resolve number signal =>
    rcases t.apply_resolve_cases number signal with ⟨ordinal, _, next⟩ | ⟨_, next⟩
    · rw [next]
      exact ⟨rfl, rfl, rfl, rfl, rfl⟩
    · rw [next]
      exact ⟨rfl, rfl, rfl, rfl, rfl⟩
  | run number =>
    rcases t.apply_run_cases number with ⟨ordinal, signal, _, next⟩ | ⟨_, next⟩
    · rw [next]
      exact ⟨rfl, rfl, rfl, rfl, rfl⟩
    · rw [next]
      exact ⟨rfl, rfl, rfl, rfl, rfl⟩

def completion? (inFlight : Std.ExtTreeMap Nat InFlight) (entry : Nat × Outcome) :
    Option Completion :=
  inFlight[entry.1]?.map fun f => ⟨f.record, f.payload, entry.2⟩

theorem completions_erase (entries : List (Nat × Outcome))
    (inFlight : Std.ExtTreeMap Nat InFlight) (ordinal : Nat)
    (apart : ordinal ∉ entries.map Prod.fst) :
    entries.filterMap (completion? (inFlight.erase ordinal)) =
      entries.filterMap (completion? inFlight) := by
  induction entries with
  | nil => rfl
  | cons entry rest ih =>
    simp only [List.map_cons, List.mem_cons, not_or] at apart
    have head : completion? (inFlight.erase ordinal) entry = completion? inFlight entry := by
      simp [completion?, Std.ExtTreeMap.getElem?_erase, apart.1]
    rw [List.filterMap_cons, List.filterMap_cons, head, ih apart.2]

theorem collect_all (entries : List (Nat × Outcome)) (once : (entries.map Prod.fst).Nodup)
    (done : Array Completion) (inFlight : Std.ExtTreeMap Nat InFlight) :
    (entries.foldl collect (done, inFlight)).1.toList =
        done.toList ++ entries.filterMap (completion? inFlight) ∧
      ∀ i : Nat,
        (i ∈ entries.map Prod.fst → (entries.foldl collect (done, inFlight)).2[i]? = none) ∧
        (i ∉ entries.map Prod.fst →
          (entries.foldl collect (done, inFlight)).2[i]? = inFlight[i]?) := by
  induction entries generalizing done inFlight with
  | nil => simp
  | cons entry rest ih =>
    obtain ⟨ordinal, outcome⟩ := entry
    obtain ⟨apart, later⟩ := List.nodup_cons.mp once
    cases found : inFlight[ordinal]? with
    | none =>
      have skip : collect (done, inFlight) (ordinal, outcome) = (done, inFlight) := by
        simp [collect, found]
      obtain ⟨completions, left⟩ := ih later done inFlight
      rw [List.foldl_cons, skip]
      refine ⟨by simp [completions, completion?, found], fun i => ⟨fun member => ?_,
        fun absent => ?_⟩⟩
      · rcases List.mem_cons.mp member with same | below
        · rw [same, (left ordinal).2 apart]
          exact found
        · exact (left i).1 below
      · exact (left i).2 fun below => absent (List.mem_cons_of_mem _ below)
    | some f =>
      have take : collect (done, inFlight) (ordinal, outcome) =
          (done.push ⟨f.record, f.payload, outcome⟩, inFlight.erase ordinal) := by
        simp [collect, found]
      obtain ⟨completions, left⟩ := ih later (done.push ⟨f.record, f.payload, outcome⟩)
        (inFlight.erase ordinal)
      rw [completions_erase rest inFlight ordinal apart] at completions
      rw [List.foldl_cons, take]
      refine ⟨by simp [completions, completion?, found], fun i => ⟨fun member => ?_,
        fun absent => ?_⟩⟩
      · rcases List.mem_cons.mp member with same | below
        · rw [same, (left ordinal).2 apart]
          exact Std.ExtTreeMap.getElem?_erase_self
        · exact (left i).1 below
      · simp only [List.map_cons, List.mem_cons, not_or] at absent
        rw [(left i).2 absent.2, Std.ExtTreeMap.getElem?_erase,
          if_neg (by simpa [Nat.compare_eq_eq] using Ne.symm absent.1)]

theorem poll_spec (t : Tracker) (once : (t.finished.toList.map Prod.fst).Nodup) :
    t.poll.1.toList = t.finished.toList.filterMap (completion? t.inFlight) ∧
      (∀ i : Nat,
        (i ∈ t.finished.toList.map Prod.fst → t.poll.2.inFlight[i]? = none) ∧
        (i ∉ t.finished.toList.map Prod.fst → t.poll.2.inFlight[i]? = t.inFlight[i]?)) ∧
      t.poll.2 = { t with inFlight := t.poll.2.inFlight, finished := #[] } := by
  obtain ⟨completions, left⟩ := collect_all t.finished.toList once #[] t.inFlight
  rw [Array.foldl_toList] at completions
  simp only [Array.foldl_toList] at left
  refine ⟨?_, left, rfl⟩
  simpa [poll] using completions

end Courier.Tracker

namespace Courier.Batch

theorem cycle_resolved (b : Batch) (c : Client) (resolved : b.stage = .resolved) :
    b.cycle c = ({}, b, c) := by
  simp [cycle, resolved]

theorem cycle_unreadable (b : Batch) (c : Client) (fault : Unreadable)
    (pending : b.stage ≠ .resolved) (unreadable : b.unreadable = some fault) :
    b.cycle c = ({ failure := some b.whole },
      { b with unreadable := none, stage := .resolved, cycles := b.cycles + 1 }, c) := by
  simp [cycle, pending, unreadable]

theorem cycle_readable (b : Batch) (c : Client) (pending : b.stage ≠ .resolved)
    (readable : b.unreadable = none) : b.cycle c = b.advance c := by
  simp [cycle, pending, readable]

theorem cycle_cases (b : Batch) (c : Client) :
    (b.stage = .resolved ∧ b.cycle c = ({}, b, c)) ∨
    (b.stage ≠ .resolved ∧ b.unreadable ≠ none ∧
      b.cycle c = ({ failure := some b.whole },
        { b with unreadable := none, stage := .resolved, cycles := b.cycles + 1 }, c)) ∨
    (b.stage ≠ .resolved ∧ b.unreadable = none ∧ b.cycle c = b.advance c) := by
  by_cases resolved : b.stage = .resolved
  · exact .inl ⟨resolved, b.cycle_resolved c resolved⟩
  · cases unreadable : b.unreadable with
    | some fault =>
      exact .inr (.inl ⟨resolved, by simp, b.cycle_unreadable c fault resolved unreadable⟩)
    | none => exact .inr (.inr ⟨resolved, rfl, b.cycle_readable c resolved unreadable⟩)

def admission (b : Batch) (c : Client) : Admission :=
  { tracker := b.tracker, ledger := b.ledger, client := c }

theorem advance_spec (b : Batch) (c : Client) :
    let admitted := handOver b.unsubmitted (b.admission c)
    let completions := admitted.2.tracker.poll.1
    let ledger := completions.foldl enter admitted.2.ledger
    let stage := stageOf admitted.1 admitted.2.tracker.poll.2
    (b.advance c).2 =
        ({ b with unsubmitted := admitted.1, tracker := admitted.2.tracker.poll.2, ledger := ledger,
                  stage := stage, cycles := b.cycles + 1 }, admitted.2.client) ∧
      (b.advance c).1 =
        { stillPending := !(stage == .resolved)
          success := if stage = .resolved then
            (ledger.assemble admitted.2.tracker.poll.2.topic b.input.attributes).1 else none
          failure := if stage = .resolved then
            (ledger.assemble admitted.2.tracker.poll.2.topic b.input.attributes).2 else none
          submitted := admitted.2.submitted
          resolved := admitted.2.resolved + completions.size } := by
  unfold advance admission
  dsimp only
  split
  · rename_i done
    have resolved := eq_of_beq done
    simp [resolved]
  · rename_i pending
    rw [beq_iff_eq] at pending
    simp [pending]

def success? (c : Completion) : Option Bytes :=
  match c.outcome with
  | .delivered => some c.record.raw
  | .failed _ => none

def failure? (c : Completion) : Option Bytes :=
  match c.outcome with
  | .delivered => none
  | .failed _ => some c.payload

theorem enter_success (l : Ledger) (c : Completion) (i : Nat) :
    (enter l c).success[i]? =
      if c.record.ordinal = i then (success? c).or l.success[i]? else l.success[i]? := by
  unfold enter success?
  cases c.outcome with
  | delivered => simp [Ledger.recordSuccess, Std.ExtTreeMap.getElem?_insert]
  | failed report => simp [Ledger.recordFailure]

theorem enter_failure (l : Ledger) (c : Completion) (i : Nat) :
    (enter l c).failure[i]? =
      if c.record.ordinal = i then (failure? c).or l.failure[i]? else l.failure[i]? := by
  unfold enter failure?
  cases c.outcome with
  | delivered => simp [Ledger.recordSuccess]
  | failed report => simp [Ledger.recordFailure, Std.ExtTreeMap.getElem?_insert]

theorem enter_all (completions : List Completion) (l : Ledger)
    (once : (completions.map (·.record.ordinal)).Nodup) :
    (∀ i, i ∉ completions.map (·.record.ordinal) →
      (completions.foldl enter l).success[i]? = l.success[i]? ∧
        (completions.foldl enter l).failure[i]? = l.failure[i]?) ∧
    ∀ c ∈ completions,
      (completions.foldl enter l).success[c.record.ordinal]? =
          (success? c).or l.success[c.record.ordinal]? ∧
        (completions.foldl enter l).failure[c.record.ordinal]? =
          (failure? c).or l.failure[c.record.ordinal]? := by
  induction completions generalizing l with
  | nil => simp
  | cons d rest ih =>
    obtain ⟨apart, later⟩ := List.nodup_cons.mp once
    obtain ⟨outside, inside⟩ := ih (enter l d) later
    constructor
    · intro i absent
      simp only [List.map_cons, List.mem_cons, not_or] at absent
      obtain ⟨success, failure⟩ := outside i absent.2
      rw [List.foldl_cons, success, failure, enter_success, enter_failure,
        if_neg (Ne.symm absent.1), if_neg (Ne.symm absent.1)]
      exact ⟨rfl, rfl⟩
    · intro c member
      rw [List.foldl_cons]
      rcases List.mem_cons.mp member with rfl | below
      · obtain ⟨success, failure⟩ := outside c.record.ordinal apart
        rw [success, failure, enter_success, enter_failure, if_pos rfl, if_pos rfl]
        exact ⟨rfl, rfl⟩
      · obtain ⟨success, failure⟩ := inside c below
        have different : d.record.ordinal ≠ c.record.ordinal := by
          intro same
          exact apart (List.mem_map.mpr ⟨c, below, same.symm⟩)
        rw [success, failure, enter_success, enter_failure, if_neg different, if_neg different]
        exact ⟨rfl, rfl⟩

end Courier.Batch
