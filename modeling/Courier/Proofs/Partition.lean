import Courier.Proofs.Voyage

set_option autoImplicit false

namespace Courier

variable {p : Publisher} {attributes : Attributes} {records : List Record} {first : Nat}
  {given : List (Nat × Signal)} {roster : List Entry} {rest : List Record}
  {t : Tracker} {l : Ledger} {c : Client}

theorem mirrors_rest (mirrors : Mirrors p attributes records first given roster rest t l c) :
    rest.map Record.ordinal = List.range' roster.length rest.length ∧
      roster.length + rest.length = records.length := by
  have total : roster.length + rest.length = records.length := by
    rw [← mirrors.told.taken]
    simp
  have ordinals := mirrors.ordinals
  rw [← mirrors.told.taken, List.map_append, mirrors.told.taken, ← total,
    List.range_eq_range', ← List.range'_append_1] at ordinals
  exact ⟨(List.append_inj ordinals (by simp)).2.trans (by simp), total⟩

theorem rostered_taken (input : Input) (s : Course)
    (rostered : CourseRostered p input records s roster) :
    s.batch.submittedCount = roster.length := by
  have total := (mirrors_rest rostered.mirrors).2
  rw [Batch.submittedCount, rostered.count]
  omega

theorem resolved_records (input : Input) (s : Course)
    (rostered : CourseRostered p input records s roster)
    (resolved : s.batch.stage = .resolved) : roster.map Entry.record = records := by
  have all := rostered.mirrors.told.taken
  rw [(rostered.stage.mp resolved).1, List.append_nil] at all
  exact all

theorem rostered_handed (input : Input) (s : Course)
    (rostered : CourseRostered p input records s roster) :
    s.handed = roster.filterMap Entry.call? := rostered.mirrors.told.handed.symm

theorem mirrors_split (mirrors : Mirrors p attributes records first given roster rest t l c) :
    (rest.map Record.ordinal ++ t.inFlight.keys ++ l.success.keys ++ l.failure.keys).Perm
      (List.range records.length) := by
  obtain ⟨ordinals, total⟩ := mirrors_rest mirrors
  rw [List.perm_iff_count]
  intro i
  simp only [List.count_append]
  rw [Positions.views_count _ _ _ mirrors.tracker.inFlight,
    Positions.views_count _ _ _ mirrors.tracker.success,
    Positions.views_count _ _ _ mirrors.tracker.failure, ordinals,
    (List.nodup_range' ..).count, List.nodup_range.count]
  simp only [List.mem_range'_1, List.mem_range]
  by_cases taken : i < roster.length
  · have one := roster[i].one_part
    have before : ¬ (roster.length ≤ i ∧ i < roster.length + rest.length) := by omega
    have known : i < records.length := by omega
    rw [List.getElem?_eq_getElem taken, if_neg before, if_pos known]
    simp only [Option.bind_some]
    omega
  · have after : (roster.length ≤ i ∧ i < roster.length + rest.length) ↔
        i < records.length := by omega
    rw [List.getElem?_eq_none (by omega)]
    simp [after]

theorem mirrors_count (mirrors : Mirrors p attributes records first given roster rest t l c) :
    rest.length + t.inFlight.size + l.successCount + l.failureCount = records.length := by
  have lengths := (mirrors_split mirrors).length_eq
  simpa [Ledger.successCount, Ledger.failureCount, Nat.add_assoc] using lengths

theorem mirrors_ordinals (mirrors : Mirrors p attributes records first given roster rest t l c)
    (i : Nat) : (t.awaited.toList.map (·.2.ordinal)).count i =
      if (roster[i]?.bind Entry.awaited?).isSome then 1 else 0 := by
  have listed (n : Nat) (a : Awaited) : (n, a) ∈ t.awaited.toList ↔
      roster[a.ordinal]?.bind Entry.awaited? = some (n, a.signal) := by
    rw [Std.ExtTreeMap.mem_toList_iff_getElem?_eq_some]
    exact mirrors.tracker.awaited n a.ordinal a.signal
  -- The roster has one call for an ordinal, so that no two tasks are for the same one.
  have once : (t.awaited.toList.map (·.2.ordinal)).Nodup := by
    refine List.pairwise_map.mpr (List.Pairwise.imp_of_mem ?_ (Positions.map_ordered t.awaited))
    rintro ⟨n, a⟩ ⟨n', a'⟩ here there less same
    have one := (listed n a).mp here
    have other := (listed n' a').mp there
    dsimp only at same less
    rw [same, other] at one
    have equal : n' = n := by simpa using congrArg (Option.map Prod.fst) one
    omega
  rw [once.count]
  have member : i ∈ t.awaited.toList.map (·.2.ordinal) ↔
      (roster[i]?.bind Entry.awaited?).isSome := by
    rw [List.mem_map, Option.isSome_iff_exists]
    constructor
    · rintro ⟨⟨n, a⟩, found, rfl⟩
      exact ⟨_, (listed n a).mp found⟩
    · rintro ⟨⟨n, s⟩, found⟩
      exact ⟨(n, ⟨i, s⟩), (listed n ⟨i, s⟩).mpr found, rfl⟩
  simp only [member]

theorem mirrors_waits (mirrors : Mirrors p attributes records first given roster rest t l c) :
    (t.awaited.toList.map (·.2.ordinal) ++ t.finished.toList.map Prod.fst).Perm
      t.inFlight.keys := by
  rw [List.perm_iff_count]
  intro i
  rw [List.count_append, mirrors_ordinals mirrors, mirrors.tracker.once.count,
    Positions.views_count _ _ _ mirrors.tracker.inFlight]
  simp only [tracker_queue roster t l mirrors.tracker]
  cases roster[i]? with
  | none => rfl
  | some e => exact e.one_wait

end Courier
