import Courier.Proofs.Course
import Courier.Proofs.Positions
import Courier.Proofs.TrackerSteps

set_option autoImplicit false

/- Rosters: the records that have been taken, each with where it stands. A tracker and a ledger
   spread this over maps of records, a map of calls and a queue; a roster keeps it in one place,
   where every event touches one entry. -/
namespace Courier

inductive Phase where
  -- A task awaits the acknowledgment, which may have ended.
  | awaited (signal : Option Signal)
  -- The outcome waits in the queue.
  | queued (outcome : Outcome)
  -- The outcome is in the ledger.
  | entered (outcome : Outcome)
deriving DecidableEq

inductive Entry where
  | unwritable (record : Record)
  | sent (record : Record) (payload : Bytes) (call : Call) (phase : Phase)

namespace Entry

def record : Entry → Record
  | .unwritable r => r
  | .sent r _ _ _ => r

def call? : Entry → Option Call
  | .unwritable _ => none
  | .sent _ _ call _ => some call

def fate : Entry → Record × Fate Call
  | .unwritable r => (r, .unwritable)
  | .sent r payload call _ => (r, .sent payload call)

def inFlight? : Entry → Option InFlight
  | .sent r payload _ (.awaited _) => some ⟨r, payload⟩
  | .sent r payload _ (.queued _) => some ⟨r, payload⟩
  | _ => none

def awaited? : Entry → Option (Nat × Option Signal)
  | .sent _ _ call (.awaited signal) => some (call.number, signal)
  | _ => none

def queued? : Entry → Option Outcome
  | .sent _ _ _ (.queued outcome) => some outcome
  | _ => none

def success? : Entry → Option Bytes
  | .sent r _ _ (.entered .delivered) => some r.raw
  | _ => none

def failure? : Entry → Option Bytes
  | .unwritable r => some r.raw
  | .sent _ payload _ (.entered (.failed _)) => some payload
  | _ => none

def resolve (number : Nat) (signal : Signal) : Entry → Entry
  | .sent r payload call (.awaited none) =>
    .sent r payload call (.awaited (if call.number = number then some signal else none))
  | e => e

def finish (number : Nat) : Entry → Entry
  | .sent r payload call (.awaited (some signal)) =>
    .sent r payload call
      (if call.number = number then .queued signal.outcome else .awaited (some signal))
  | e => e

def apply : Tracker.Event → Entry → Entry
  | .resolve number signal => resolve number signal
  | .run number => finish number

def collect : Entry → Entry
  | .sent r payload call (.queued outcome) => .sent r payload call (.entered outcome)
  | e => e

theorem resolve_views (number : Nat) (signal : Signal) (e : Entry) :
    (e.resolve number signal).inFlight? = e.inFlight? ∧
      (e.resolve number signal).queued? = e.queued? ∧
      (e.resolve number signal).success? = e.success? ∧
      (e.resolve number signal).failure? = e.failure? := by
  unfold resolve
  split <;> exact ⟨rfl, rfl, rfl, rfl⟩

theorem finish_views (number : Nat) (e : Entry) :
    (e.finish number).inFlight? = e.inFlight? ∧ (e.finish number).success? = e.success? ∧
      (e.finish number).failure? = e.failure? := by
  unfold finish
  split
  · split <;> exact ⟨rfl, rfl, rfl⟩
  · exact ⟨rfl, rfl, rfl⟩

theorem apply_fate (event : Tracker.Event) (e : Entry) : (e.apply event).fate = e.fate := by
  cases event with
  | resolve number signal => simp only [apply, resolve]; split <;> rfl
  | run number => simp only [apply, finish]; split <;> rfl

theorem collect_fate (e : Entry) : e.collect.fate = e.fate := by
  unfold collect
  split <;> rfl

theorem fate_record (e : Entry) : e.fate.1 = e.record := by
  cases e <;> rfl

theorem resolve_awaited (number : Nat) (signal : Signal) (e : Entry) (n : Nat)
    (s : Option Signal) :
    (e.resolve number signal).awaited? = some (n, s) ↔
      (e.awaited? = some (n, s) ∧ ¬ (n = number ∧ s = none)) ∨
        (e.awaited? = some (n, none) ∧ n = number ∧ s = some signal) := by
  cases e with
  | unwritable r => simp [resolve, awaited?]
  | sent r payload call phase =>
    cases phase with
    | queued o => simp [resolve, awaited?]
    | entered o => simp [resolve, awaited?]
    | awaited old =>
      by_cases same : call.number = number
      · cases old with
        | none => grind [resolve, awaited?]
        | some old => grind [resolve, awaited?]
      · cases old with
        | none => grind [resolve, awaited?]
        | some old => grind [resolve, awaited?]

theorem resolve_idle (number : Nat) (signal : Signal) (e : Entry)
    (idle : e.awaited? ≠ some (number, none)) : e.resolve number signal = e := by
  cases e with
  | unwritable r => rfl
  | sent r payload call phase =>
    cases phase with
    | queued o => rfl
    | entered o => rfl
    | awaited s =>
      cases s with
      | some s => rfl
      | none =>
        have other : call.number ≠ number := by
          rintro rfl
          exact idle rfl
        rw [resolve, if_neg other]

theorem finish_awaited (number : Nat) (e : Entry) (n : Nat) (s : Option Signal) :
    (e.finish number).awaited? = some (n, s) ↔
      e.awaited? = some (n, s) ∧ ¬ (n = number ∧ s.isSome) := by
  cases e with
  | unwritable r => simp [finish, awaited?]
  | sent r payload call phase =>
    cases phase with
    | queued o => simp [finish, awaited?]
    | entered o => simp [finish, awaited?]
    | awaited old =>
      cases old with
      | none =>
        simp only [finish, awaited?, Option.some.injEq, Prod.mk.injEq]
        constructor
        · rintro ⟨rfl, rfl⟩
          simp
        · exact fun same => same.1
      | some old =>
        by_cases same : call.number = number
        · simp only [finish, awaited?, same, if_true, Option.some.injEq, Prod.mk.injEq]
          constructor
          · intro impossible
            cases impossible
          · rintro ⟨⟨rfl, rfl⟩, other⟩
            simp at other
        · simp only [finish, awaited?, same, if_false, Option.some.injEq, Prod.mk.injEq]
          constructor
          · rintro ⟨rfl, rfl⟩
            simp [same]
          · exact fun same => same.1

theorem finish_queued (number : Nat) (e : Entry) (outcome : Outcome) :
    (e.finish number).queued? = some outcome ↔
      e.queued? = some outcome ∨
        ∃ signal, e.awaited? = some (number, some signal) ∧ signal.outcome = outcome := by
  cases e with
  | unwritable r => simp [finish, queued?, awaited?]
  | sent r payload call phase =>
    cases phase with
    | queued o => simp [finish, queued?, awaited?]
    | entered o => simp [finish, queued?, awaited?]
    | awaited s =>
      cases s with
      | none => simp [finish, queued?, awaited?]
      | some s =>
        by_cases same : call.number = number
        · simp [finish, queued?, awaited?, same]
        · simp [finish, queued?, awaited?, same]

theorem finish_idle (number : Nat) (e : Entry)
    (idle : ∀ signal, e.awaited? ≠ some (number, some signal)) : e.finish number = e := by
  cases e with
  | unwritable r => rfl
  | sent r payload call phase =>
    cases phase with
    | queued o => rfl
    | entered o => rfl
    | awaited s =>
      cases s with
      | none => rfl
      | some s =>
        have other : call.number ≠ number := by
          rintro rfl
          exact idle s rfl
        rw [finish, if_neg other]

theorem awaited_not_queued (e : Entry) (x : Nat × Option Signal) (outcome : Outcome)
    (awaited : e.awaited? = some x) : e.queued? ≠ some outcome := by
  cases e with
  | unwritable r => cases awaited
  | sent r payload call phase =>
    cases phase with
    | awaited s => simp [queued?]
    | queued o => cases awaited
    | entered o => cases awaited

theorem awaited_call (e : Entry) (number : Nat) (signal : Option Signal)
    (awaited : e.awaited? = some (number, signal)) :
    ∃ call, e.call? = some call ∧ call.number = number := by
  cases e with
  | unwritable r => cases awaited
  | sent r payload call phase =>
    cases phase with
    | awaited s =>
      cases awaited
      exact ⟨call, rfl, rfl⟩
    | queued o => cases awaited
    | entered o => cases awaited

theorem collect_idle (e : Entry) (idle : e.queued? = none) : e.collect = e := by
  unfold collect
  split
  · cases idle
  · rfl

theorem queued_sent (e : Entry) (outcome : Outcome) (queued : e.queued? = some outcome) :
    ∃ r payload call, e = .sent r payload call (.queued outcome) := by
  cases e with
  | unwritable r => cases queued
  | sent r payload call phase =>
    cases phase with
    | awaited s => cases queued
    | queued o =>
      cases queued
      exact ⟨r, payload, call, rfl⟩
    | entered o => cases queued

theorem collect_awaited (e : Entry) : e.collect.awaited? = e.awaited? := by
  unfold collect
  split <;> rfl

theorem collect_queued (e : Entry) : e.collect.queued? = none := by
  unfold collect
  split
  · rfl
  · rename_i waiting
    cases queued : e.queued? with
    | none => rfl
    | some o =>
      obtain ⟨r, payload, call, rfl⟩ := e.queued_sent o queued
      exact absurd rfl (waiting r payload call o)

theorem one_part (e : Entry) :
    (if e.inFlight?.isSome then 1 else 0) + (if e.success?.isSome then 1 else 0) +
      (if e.failure?.isSome then 1 else 0) = 1 := by
  cases e with
  | unwritable r => rfl
  | sent r payload call phase =>
    cases phase with
    | awaited signal => rfl
    | queued outcome => rfl
    | entered outcome => cases outcome <;> rfl

theorem one_wait (e : Entry) :
    (if e.awaited?.isSome then 1 else 0) + (if e.queued?.isSome then 1 else 0) =
      if e.inFlight?.isSome then 1 else 0 := by
  cases e with
  | unwritable r => rfl
  | sent r payload call phase => cases phase <;> rfl

end Entry

-- A tracker and a ledger that hold what a roster says.
structure TrackerRostered (roster : List Entry) (t : Tracker) (l : Ledger) : Prop where
  inFlight : Positions.Views t.inFlight roster Entry.inFlight?
  awaited : ∀ (number ordinal : Nat) (signal : Option Signal),
    t.awaited[number]? = some ⟨ordinal, signal⟩ ↔
      roster[ordinal]?.bind Entry.awaited? = some (number, signal)
  queued : ∀ (ordinal : Nat) (outcome : Outcome),
    (ordinal, outcome) ∈ t.finished.toList ↔
      roster[ordinal]?.bind Entry.queued? = some outcome
  once : (t.finished.toList.map Prod.fst).Nodup
  success : Positions.Views l.success roster Entry.success?
  failure : Positions.Views l.failure roster Entry.failure?

theorem resolve_heard (roster : List Entry) (t : Tracker) (l : Ledger) (number : Nat)
    (signal : Signal) (rostered : TrackerRostered roster t l)
    (nowhere : ∀ ordinal, t.awaited[number]? ≠ some ⟨ordinal, none⟩) :
    roster.map (Entry.resolve number signal) = roster := by
  refine (List.map_congr_left fun e member => ?_).trans (List.map_id roster)
  obtain ⟨i, found⟩ := List.getElem?_of_mem member
  refine e.resolve_idle number signal fun awaited => nowhere i ?_
  rw [rostered.awaited, found]
  exact awaited

theorem resolve_inserted (roster : List Entry) (t : Tracker) (l : Ledger) (number ordinal : Nat)
    (signal : Signal) (rostered : TrackerRostered roster t l)
    (here : t.awaited[number]? = some ⟨ordinal, none⟩) (n i : Nat) (s : Option Signal) :
    (t.awaited.insert number ⟨ordinal, some signal⟩)[n]? = some ⟨i, s⟩ ↔
      (roster.map (Entry.resolve number signal))[i]?.bind Entry.awaited? = some (n, s) := by
  have change : (roster.map (Entry.resolve number signal))[i]?.bind Entry.awaited? =
        some (n, s) ↔
      (t.awaited[n]? = some ⟨i, s⟩ ∧ ¬ (n = number ∧ s = none)) ∨
        (t.awaited[n]? = some ⟨i, none⟩ ∧ n = number ∧ s = some signal) := by
    rw [Positions.map_bind, rostered.awaited n i s, rostered.awaited n i none]
    cases roster[i]? with
    | none => simp
    | some e => exact e.resolve_awaited number signal n s
  rw [change]
  by_cases same : n = number
  · subst n
    simp only [Std.ExtTreeMap.getElem?_insert_self, here]
    grind
  · have other : (t.awaited.insert number ⟨ordinal, some signal⟩)[n]? = t.awaited[n]? := by
      simp [Std.ExtTreeMap.getElem?_insert, Ne.symm same]
    simp [other, same]

theorem tracker_resolve (roster : List Entry) (t : Tracker) (l : Ledger) (number : Nat)
    (signal : Signal) (rostered : TrackerRostered roster t l) :
    TrackerRostered (roster.map (Entry.resolve number signal)) (t.apply (.resolve number signal))
      l := by
  have views := Entry.resolve_views number signal
  rcases t.apply_resolve_cases number signal with ⟨ordinal, here, next⟩ | ⟨nowhere, next⟩
  · rw [next]
    constructor
    · exact Positions.views_map _ _ _ _ _ rostered.inFlight fun e _ => (views e).1
    · exact resolve_inserted roster t l number ordinal signal rostered here
    · intro i o
      rw [Positions.map_bind]
      simp only [(views _).2.1]
      exact rostered.queued i o
    · exact rostered.once
    · exact Positions.views_map _ _ _ _ _ rostered.success fun e _ => (views e).2.2.1
    · exact Positions.views_map _ _ _ _ _ rostered.failure fun e _ => (views e).2.2.2
  · rw [next, resolve_heard roster t l number signal rostered nowhere]
    exact rostered

theorem pushed_once (finished : Array (Nat × Outcome)) (ordinal : Nat) (outcome : Outcome)
    (once : (finished.toList.map Prod.fst).Nodup)
    (absent : ordinal ∉ finished.toList.map Prod.fst) :
    ((finished.push (ordinal, outcome)).toList.map Prod.fst).Nodup := by
  rw [Array.toList_push, List.map_append]
  refine List.nodup_append.mpr ⟨once, by simp, ?_⟩
  intro i member j last same
  have ending : j = ordinal := by simpa using last
  exact absent (ending ▸ same ▸ member)

theorem awaited_unqueued (roster : List Entry) (t : Tracker) (l : Ledger)
    (rostered : TrackerRostered roster t l) (number ordinal : Nat) (signal : Option Signal)
    (here : t.awaited[number]? = some ⟨ordinal, signal⟩) :
    ordinal ∉ t.finished.toList.map Prod.fst := by
  intro member
  obtain ⟨⟨i, o⟩, queued, rfl⟩ := List.mem_map.mp member
  obtain ⟨e, found, awaited⟩ := Option.bind_eq_some_iff.mp ((rostered.awaited _ _ _).mp here)
  have both := (rostered.queued i o).mp queued
  rw [found] at both
  exact e.awaited_not_queued _ o awaited both

theorem finish_pending (roster : List Entry) (t : Tracker) (l : Ledger) (number : Nat)
    (rostered : TrackerRostered roster t l)
    (nowhere : ∀ ordinal signal, t.awaited[number]? ≠ some ⟨ordinal, some signal⟩) :
    roster.map (Entry.finish number) = roster := by
  refine (List.map_congr_left fun e member => ?_).trans (List.map_id roster)
  obtain ⟨i, found⟩ := List.getElem?_of_mem member
  refine e.finish_idle number fun signal awaited => nowhere i signal ?_
  rw [rostered.awaited, found]
  exact awaited

theorem finish_erased (roster : List Entry) (t : Tracker) (l : Ledger) (number ordinal : Nat)
    (signal : Signal) (rostered : TrackerRostered roster t l)
    (here : t.awaited[number]? = some ⟨ordinal, some signal⟩) (n i : Nat) (s : Option Signal) :
    (t.awaited.erase number)[n]? = some ⟨i, s⟩ ↔
      (roster.map (Entry.finish number))[i]?.bind Entry.awaited? = some (n, s) := by
  have change : (roster.map (Entry.finish number))[i]?.bind Entry.awaited? = some (n, s) ↔
      t.awaited[n]? = some ⟨i, s⟩ ∧ ¬ (n = number ∧ s.isSome) := by
    rw [Positions.map_bind, rostered.awaited n i s]
    cases roster[i]? with
    | none => simp
    | some e => exact e.finish_awaited number n s
  rw [change]
  by_cases same : n = number
  · subst n
    rw [Std.ExtTreeMap.getElem?_erase_self, here]
    grind
  · have other : (t.awaited.erase number)[n]? = t.awaited[n]? := by
      simp [Std.ExtTreeMap.getElem?_erase, Ne.symm same]
    simp [other, same]

theorem finish_pushed (roster : List Entry) (t : Tracker) (l : Ledger) (number ordinal : Nat)
    (signal : Signal) (rostered : TrackerRostered roster t l)
    (here : t.awaited[number]? = some ⟨ordinal, some signal⟩) (i : Nat) (o : Outcome) :
    (i, o) ∈ (t.finished.push (ordinal, signal.outcome)).toList ↔
      (roster.map (Entry.finish number))[i]?.bind Entry.queued? = some o := by
  have change : (roster.map (Entry.finish number))[i]?.bind Entry.queued? = some o ↔
      (i, o) ∈ t.finished.toList ∨
        ∃ signal, t.awaited[number]? = some ⟨i, some signal⟩ ∧ signal.outcome = o := by
    rw [Positions.map_bind, rostered.queued i o]
    simp only [rostered.awaited]
    cases roster[i]? with
    | none => simp
    | some e => exact e.finish_queued number o
  rw [change]
  simp only [Array.toList_push, List.mem_append, List.mem_singleton, here]
  grind

theorem tracker_finish (roster : List Entry) (t : Tracker) (l : Ledger) (number : Nat)
    (rostered : TrackerRostered roster t l) :
    TrackerRostered (roster.map (Entry.finish number)) (t.apply (.run number)) l := by
  have views := Entry.finish_views number
  rcases t.apply_run_cases number with ⟨ordinal, signal, here, next⟩ | ⟨nowhere, next⟩
  · rw [next]
    constructor
    · exact Positions.views_map _ _ _ _ _ rostered.inFlight fun e _ => (views e).1
    · exact finish_erased roster t l number ordinal signal rostered here
    · exact finish_pushed roster t l number ordinal signal rostered here
    · exact pushed_once t.finished ordinal signal.outcome rostered.once
        (awaited_unqueued roster t l rostered number ordinal _ here)
    · exact Positions.views_map _ _ _ _ _ rostered.success fun e _ => (views e).2.1
    · exact Positions.views_map _ _ _ _ _ rostered.failure fun e _ => (views e).2.2
  · rw [next, finish_pending roster t l number rostered nowhere]
    exact rostered

theorem tracker_apply (roster : List Entry) (t : Tracker) (l : Ledger) (e : Tracker.Event)
    (rostered : TrackerRostered roster t l) :
    TrackerRostered (roster.map (Entry.apply e)) (t.apply e) l := by
  cases e with
  | resolve number signal => exact tracker_resolve roster t l number signal rostered
  | run number => exact tracker_finish roster t l number rostered

theorem tracker_reject (roster : List Entry) (t : Tracker) (l : Ledger) (r : Record)
    (rostered : TrackerRostered roster t l) (next : r.ordinal = roster.length) :
    TrackerRostered (roster ++ [.unwritable r]) t (l.recordFailure r.ordinal r.raw) := by
  constructor
  · exact Positions.views_skip _ _ _ _ rostered.inFlight rfl
  · intro n i s
    rw [Positions.bind_skip _ _ _ rfl]
    exact rostered.awaited n i s
  · intro i o
    rw [Positions.bind_skip _ _ _ rfl]
    exact rostered.queued i o
  · exact rostered.once
  · exact Positions.views_skip _ _ _ _ rostered.success rfl
  · rw [next]
    exact Positions.views_insert _ _ _ _ _ rostered.failure rfl

theorem tracker_refuse (roster : List Entry) (t : Tracker) (l : Ledger) (r : Record)
    (payload : Bytes) (call : Call) (outcome : Outcome) (rostered : TrackerRostered roster t l)
    (next : r.ordinal = roster.length) :
    TrackerRostered (roster ++ [.sent r payload call (.queued outcome)])
      ((t.hold r payload).finish r.ordinal outcome) l := by
  have fresh : r.ordinal ∉ t.finished.toList.map Prod.fst := by
    intro member
    obtain ⟨⟨i, o⟩, queued, same⟩ := List.mem_map.mp member
    have found := (rostered.queued i o).mp queued
    rw [List.getElem?_eq_none (by simp only [next] at same; omega)] at found
    cases found
  constructor
  · have held := Positions.views_insert _ _ _ (.sent r payload call (.queued outcome)) _
      rostered.inFlight rfl
    rw [← next] at held
    exact held
  · intro n i s
    rw [Positions.bind_skip _ _ _ rfl]
    exact rostered.awaited n i s
  · intro i o
    rw [Positions.bind_concat, ← next]
    simp only [Tracker.finish, Tracker.hold, Array.toList_push, List.mem_append,
      List.mem_singleton, rostered.queued i o]
    by_cases last : i = r.ordinal
    · rw [List.getElem?_eq_none (by omega)]
      simp [last, Entry.queued?, eq_comm]
    · simp [last]
  · exact pushed_once t.finished r.ordinal outcome rostered.once fresh
  · exact Positions.views_skip _ _ _ _ rostered.success rfl
  · exact Positions.views_skip _ _ _ _ rostered.failure rfl

theorem tracker_await (roster : List Entry) (t : Tracker) (l : Ledger) (r : Record)
    (payload : Bytes) (call : Call) (signal : Option Signal) (rostered : TrackerRostered roster t l)
    (next : r.ordinal = roster.length) (fresh : t.awaited[call.number]? = none) :
    TrackerRostered (roster ++ [.sent r payload call (.awaited signal)])
      ((t.hold r payload).await call.number r.ordinal signal) l := by
  constructor
  · have held := Positions.views_insert _ _ _ (.sent r payload call (.awaited signal)) _
      rostered.inFlight rfl
    rw [← next] at held
    exact held
  · intro n i s
    rw [Positions.bind_concat, ← next]
    by_cases last : i = r.ordinal
    · have beyond : t.awaited[n]? ≠ some ⟨i, s⟩ := by
        rw [ne_eq, rostered.awaited n i s, List.getElem?_eq_none (by omega)]
        simp
      by_cases same : n = call.number
      · simp [Tracker.await, Tracker.hold, last, same, Entry.awaited?]
      · rw [last] at beyond
        simp [Tracker.await, Tracker.hold, Std.ExtTreeMap.getElem?_insert, last, Ne.symm same,
          Entry.awaited?, beyond]
    · rw [if_neg last, ← rostered.awaited n i s]
      by_cases same : n = call.number
      · subst n
        simp [Tracker.await, Tracker.hold, fresh, Ne.symm last]
      · simp [Tracker.await, Tracker.hold, Std.ExtTreeMap.getElem?_insert, Ne.symm same]
  · intro i o
    rw [Positions.bind_skip _ _ _ rfl]
    exact rostered.queued i o
  · exact rostered.once
  · exact Positions.views_skip _ _ _ _ rostered.success rfl
  · exact Positions.views_skip _ _ _ _ rostered.failure rfl

theorem tracker_queue (roster : List Entry) (t : Tracker) (l : Ledger)
    (rostered : TrackerRostered roster t l)
    (i : Nat) : i ∈ t.finished.toList.map Prod.fst ↔ (roster[i]?.bind Entry.queued?).isSome := by
  rw [List.mem_map, Option.isSome_iff_exists]
  constructor
  · rintro ⟨⟨j, o⟩, queued, rfl⟩
    exact ⟨o, (rostered.queued j o).mp queued⟩
  · rintro ⟨o, queued⟩
    exact ⟨(i, o), (rostered.queued i o).mpr queued, rfl⟩

theorem tracker_completion (roster : List Entry) (t : Tracker) (l : Ledger)
    (rostered : TrackerRostered roster t l) (i : Nat) (o : Outcome)
    (queued : (i, o) ∈ t.finished.toList) :
    ∃ r payload call, roster[i]? = some (.sent r payload call (.queued o)) ∧
      Tracker.completion? t.inFlight (i, o) = some ⟨r, payload, o⟩ := by
  obtain ⟨e, found, waiting⟩ := Option.bind_eq_some_iff.mp ((rostered.queued i o).mp queued)
  obtain ⟨r, payload, call, rfl⟩ := e.queued_sent o waiting
  have held := rostered.inFlight i
  rw [found] at held
  exact ⟨r, payload, call, found, by simp [Tracker.completion?, held, Entry.inFlight?]⟩

theorem completions_ordinals (roster : List Entry) (t : Tracker) (l : Ledger)
    (rostered : TrackerRostered roster t l)
    (placed : ∀ (i : Nat) (e : Entry), roster[i]? = some e → e.record.ordinal = i) :
    (t.finished.toList.filterMap (Tracker.completion? t.inFlight)).map (·.record.ordinal) =
      t.finished.toList.map Prod.fst := by
  have each : ∀ x ∈ t.finished.toList, ∃ c, Tracker.completion? t.inFlight x = some c ∧
      c.record.ordinal = x.1 := by
    rintro ⟨i, o⟩ queued
    obtain ⟨r, payload, call, found, complete⟩ := tracker_completion roster t l rostered i o queued
    exact ⟨_, complete, placed i _ found⟩
  generalize t.finished.toList = entries at each ⊢
  induction entries with
  | nil => rfl
  | cons x rest ih =>
    obtain ⟨c, complete, same⟩ := each x List.mem_cons_self
    have later := ih fun y member => each y (List.mem_cons_of_mem x member)
    simp [complete, same, later]

theorem collect_still (roster : List Entry) (t : Tracker) (l : Ledger)
    (rostered : TrackerRostered roster t l)
    (i : Nat) (absent : i ∉ t.finished.toList.map Prod.fst) :
    (roster.map Entry.collect)[i]? = roster[i]? := by
  rw [tracker_queue roster t l rostered i] at absent
  rw [List.getElem?_map]
  cases found : roster[i]? with
  | none => rfl
  | some e =>
    rw [found] at absent
    have idle : e.queued? = none := by simpa using absent
    rw [Option.map_some, e.collect_idle idle]

theorem collect_moved (roster : List Entry) (t : Tracker) (l : Ledger)
    (rostered : TrackerRostered roster t l)
    (placed : ∀ (i : Nat) (e : Entry), roster[i]? = some e → e.record.ordinal = i)
    (i : Nat) (member : i ∈ t.finished.toList.map Prod.fst) :
    ∃ r payload call o, roster[i]? = some (.sent r payload call (.queued o)) ∧
      ⟨r, payload, o⟩ ∈ t.poll.1.toList ∧ r.ordinal = i := by
  obtain ⟨⟨j, o⟩, queued, rfl⟩ := List.mem_map.mp member
  obtain ⟨r, payload, call, found, complete⟩ := tracker_completion roster t l rostered j o queued
  refine ⟨r, payload, call, o, found, ?_, placed j _ found⟩
  rw [(t.poll_spec rostered.once).1]
  exact List.mem_filterMap.mpr ⟨(j, o), queued, complete⟩

theorem views_collect {β : Type} (roster : List Entry) (t : Tracker) (l : Ledger)
    (rostered : TrackerRostered roster t l)
    (placed : ∀ (i : Nat) (e : Entry), roster[i]? = some e → e.record.ordinal = i)
    (part : Entry → Option β) (m after : Std.ExtTreeMap Nat β)
    (before : Positions.Views m roster part)
    (outside : ∀ i : Nat, i ∉ t.finished.toList.map Prod.fst → after[i]? = m[i]?)
    (inside : ∀ r payload call o,
      roster[r.ordinal]? = some (.sent r payload call (.queued o)) →
      r.ordinal ∈ t.finished.toList.map Prod.fst → ⟨r, payload, o⟩ ∈ t.poll.1.toList →
      after[r.ordinal]? = part (.sent r payload call (.entered o))) :
    Positions.Views after (roster.map Entry.collect) part := by
  intro i
  by_cases member : i ∈ t.finished.toList.map Prod.fst
  · obtain ⟨r, payload, call, o, found, listed, rfl⟩ :=
      collect_moved roster t l rostered placed i member
    rw [inside r payload call o found member listed, List.getElem?_map, found]
    rfl
  · rw [outside i member, collect_still roster t l rostered i member, before i]

theorem tracker_collect (roster : List Entry) (t : Tracker) (l : Ledger)
    (rostered : TrackerRostered roster t l)
    (placed : ∀ (i : Nat) (e : Entry), roster[i]? = some e → e.record.ordinal = i) :
    TrackerRostered (roster.map Entry.collect) t.poll.2 (t.poll.1.foldl Batch.enter l) := by
  obtain ⟨completions, left, frame⟩ := t.poll_spec rostered.once
  have ordinals := completions_ordinals roster t l rostered placed
  rw [← completions] at ordinals
  obtain ⟨outside, inside⟩ := Batch.enter_all t.poll.1.toList l (ordinals ▸ rostered.once)
  rw [ordinals] at outside
  rw [Array.foldl_toList] at outside inside
  have collected {β : Type} := views_collect (β := β) roster t l rostered placed
  constructor
  · refine collected _ _ _ rostered.inFlight (fun i => (left i).2) ?_
    intro r payload call o found member listed
    exact (left r.ordinal).1 member
  · intro n i s
    rw [frame, Positions.map_bind]
    simp only [Entry.collect_awaited]
    exact rostered.awaited n i s
  · intro i o
    rw [frame, Positions.map_bind]
    simp [Entry.collect_queued]
  · rw [frame]
    exact List.nodup_nil
  · refine collected _ _ _ rostered.success (fun i absent => (outside i absent).1) ?_
    intro r payload call o found member listed
    have before := rostered.success r.ordinal
    rw [found] at before
    rw [(inside _ listed).1, before]
    cases o <;> rfl
  · refine collected _ _ _ rostered.failure (fun i absent => (outside i absent).2) ?_
    intro r payload call o found member listed
    have before := rostered.failure r.ordinal
    rw [found] at before
    rw [(inside _ listed).2, before]
    cases o <;> rfl

end Courier
