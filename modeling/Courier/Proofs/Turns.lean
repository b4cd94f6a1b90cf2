import Courier.Proofs.Wire

set_option autoImplicit false

namespace Courier

variable {p : Publisher} {attributes : Attributes} {records : List Record} {roster : List Entry}

structure Belongs (s : Course) (call : Call) (r : Record) : Prop where
  awaited : ∀ a, s.batch.tracker.awaited[call.number]? = some a → a.ordinal = r.ordinal
  queued : ∀ outcome, (r.ordinal, outcome) ∈ s.batch.tracker.finished.toList →
    call.outcome? s.given = some outcome
  succeeded : r.ordinal ∈ s.batch.ledger.success → call.outcome? s.given = some .delivered
  failed : r.ordinal ∈ s.batch.ledger.failure →
    ∃ report, call.outcome? s.given = some (.failed report)

theorem entry_number (input : Input) (s : Course)
    (rostered : CourseRostered p input records s roster) (i j : Nat) (e e' : Entry)
    (call call' : Call) (here : roster[i]? = some e)
    (there : roster[j]? = some e') (sent : e.call? = some call) (sent' : e'.call? = some call')
    (same : call.number = call'.number) : i = j := by
  have ordered : (roster.filterMap Entry.call?).Pairwise fun c c' => c.number < c'.number := by
    rw [rostered.mirrors.told.handed]
    exact (s.client.callsFrom_ordered s.first).filter _
  rw [List.pairwise_filterMap, List.pairwise_iff_getElem] at ordered
  obtain ⟨within, rfl⟩ := List.getElem?_eq_some_iff.mp here
  obtain ⟨within', rfl⟩ := List.getElem?_eq_some_iff.mp there
  rcases Nat.lt_trichotomy i j with before | equal | after
  · have less := ordered i j within within' before call sent call' sent'
    omega
  · exact equal
  · have less := ordered j i within' within after call' sent' call sent
    omega

theorem entry_belongs (input : Input) (s : Course)
    (rostered : CourseRostered p input records s roster) (e : Entry) (call : Call)
    (member : e ∈ roster) (sent : e.call? = some call) :
    Belongs s call e.record := by
  obtain ⟨i, found⟩ := List.mem_iff_getElem?.mp member
  have placed := mirrors_placed rostered.mirrors i e found
  have follows := rostered.mirrors.told.follows e member
  have holds := rostered.mirrors.tracker
  refine ⟨?_, ?_, ?_, ?_⟩
  · intro a awaits
    obtain ⟨e', there, waiting⟩ := Option.bind_eq_some_iff.mp
      ((holds.awaited call.number a.ordinal a.signal).mp awaits)
    obtain ⟨call', sent', same⟩ := e'.awaited_call call.number a.signal waiting
    have place := entry_number input s rostered i a.ordinal e e' call call' found there sent sent'
      same.symm
    exact place.symm.trans placed.symm
  · intro outcome waits
    have queued := (holds.queued e.record.ordinal outcome).mp waits
    rw [placed, found] at queued
    exact e.follows_queued s.given call outcome follows sent queued
  · intro succeeded
    rw [Std.ExtTreeMap.mem_iff_isSome_getElem?, holds.success, placed, found] at succeeded
    exact e.follows_success s.given call follows sent succeeded
  · intro failed
    rw [Std.ExtTreeMap.mem_iff_isSome_getElem?, holds.failure, placed, found] at failed
    exact e.follows_failure s.given call follows sent failed

theorem roster_writes (written : ∀ e ∈ roster, e.Written p attributes) :
    (roster.map Entry.record).filter p.format.writes =
      (roster.filter fun e => e.call?.isSome).map Entry.record := by
  rw [List.filter_map]
  congr 1
  apply List.filter_congr
  intro e member
  have message := e.written_message p attributes (written e member)
  rw [Function.comp_apply, ← message_writes p attributes, message, Option.isSome_map]

theorem handed_turn (input : Input) (s : Course)
    (rostered : CourseRostered p input records s roster) (j : Nat)
    (call : Call) (found : s.handed[j]? = some call) :
    ∃ r, (records.filter p.format.writes)[j]? = some r ∧
      Carries p input.attributes r call.message ∧ Belongs s call r := by
  have told := rostered.mirrors.told
  rw [rostered_handed input s rostered] at found
  obtain ⟨e, here, sent⟩ := filterMap_at Entry.call? roster j call found
  have member := (List.mem_filter.mp (List.mem_of_getElem? here)).1
  have message := e.written_message p input.attributes (told.written e member)
  rw [sent] at message
  refine ⟨e.record, ?_, message_carries e.record call.message message,
    entry_belongs input s rostered e call member sent⟩
  have place : ((roster.map Entry.record).filter p.format.writes)[j]? = some e.record := by
    rw [roster_writes told.written, List.getElem?_map, here]
    rfl
  rw [← told.taken, List.filter_append, List.getElem?_append_left, place]
  exact (List.getElem?_eq_some_iff.mp place).1

end Courier
