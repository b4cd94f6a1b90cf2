import Courier.Proofs.General
import Courier.Proofs.Partition

set_option autoImplicit false

namespace Courier

def Format.writes (f : Format) (r : Record) : Bool := (f.render r).isOk

structure Carries (p : Publisher) (attributes : Attributes) (r : Record) (m : Message) : Prop where
  topic : m.topic = p.settings.topic
  key : m.key = r.key
  payload : p.format.render r = .ok m.payload
  properties : ∀ name : Text, m.properties[name]? =
    p.settings.mappedProperties[name]?.bind fun source => attributes[source]?

variable {p : Publisher} {attributes : Attributes} {records : List Record} {roster : List Entry}

theorem message_writes (p : Publisher) (attributes : Attributes) (r : Record) :
    (p.message? attributes r).isSome = p.format.writes r := by
  unfold Publisher.message? Format.writes
  cases p.format.render r with
  | error fault => rfl
  | ok payload => rfl

theorem message_carries (r : Record) (m : Message) (message : p.message? attributes r = some m) :
    Carries p attributes r m := by
  unfold Publisher.message? at message
  cases rendered : p.format.render r with
  | error fault => simp [rendered] at message
  | ok payload =>
    rw [rendered] at message
    cases message
    refine ⟨rfl, rfl, rendered, ?_⟩
    intro name
    exact Std.ExtTreeMap.getElem?_filterMap'

theorem messages_carry (p : Publisher) (attributes : Attributes) (l : List Record) :
    List.Forall₂ (Carries p attributes) (l.filter p.format.writes)
      (l.filterMap (p.message? attributes)) := by
  have each := filterMap_filter (p.message? attributes) l
  simp only [message_writes] at each
  exact each.imp fun r m message => message_carries r m message

theorem message_at (l : List Record) (j : Nat) (m : Message)
    (found : (l.filterMap (p.message? attributes))[j]? = some m) :
    ∃ r, (l.filter p.format.writes)[j]? = some r ∧ Carries p attributes r m := by
  obtain ⟨r, here, message⟩ := filterMap_at (p.message? attributes) l j m found
  simp only [message_writes] at here
  exact ⟨r, here, message_carries r m message⟩

structure Sent (p : Publisher) (attributes : Attributes) (records : List Record) (s : Course) :
    Prop where
  taken : s.batch.unsubmitted = records.drop s.batch.submittedCount
  increasing : (records.filter p.format.writes).Pairwise fun r r' => r.ordinal < r'.ordinal
  handed : List.Forall₂ (fun r (call : Call) => Carries p attributes r call.message)
    ((records.take s.batch.submittedCount).filter p.format.writes) s.handed
  offered : ∀ (i : Nat) (call : Call), s.calls[i]? = some call →
    ∃ r, (records.filter p.format.writes)[((s.calls.take i).filter Call.isHanded).length]? =
      some r ∧ Carries p attributes r call.message
  again : ∀ (i : Nat) (call next : Call), s.calls[i]? = some call → s.calls[i + 1]? = some next →
    call.answer.isFull = true → next.message = call.message
  resolved : s.batch.stage = .resolved →
    List.Forall₂ (fun r (call : Call) => Carries p attributes r call.message)
      (records.filter p.format.writes) s.handed

theorem handed_carry (input : Input) (s : Course)
    (rostered : CourseRostered p input records s roster) :
    List.Forall₂ (fun r (call : Call) => Carries p input.attributes r call.message)
      ((roster.map Entry.record).filter p.format.writes) s.handed := by
  have all := messages_carry p input.attributes (roster.map Entry.record)
  rw [roster_messages rostered.mirrors.told.written, rostered.mirrors.told.handed] at all
  exact List.forall₂_map_right_iff.mp all

theorem resolved_carry (input : Input) (s : Course)
    (rostered : CourseRostered p input records s roster) (resolved : s.batch.stage = .resolved) :
    List.Forall₂ (fun r (call : Call) => Carries p input.attributes r call.message)
      (records.filter p.format.writes) s.handed := by
  rw [← resolved_records input s rostered resolved]
  exact handed_carry input s rostered

/-- What leaves a batch are the records that can be written, in order and once each. -/
theorem course_sends (p : Publisher) (input : Input) (client : Client) (moves : List Move)
    (records : List Record) (parsed : p.format.parse p.key input.content = .ok records)
    (nonempty : records ≠ []) :
    Sent p input.attributes records ((Course.start p input client).run moves) := by
  obtain ⟨roster, rostered⟩ := rostered_run input client moves parsed nonempty
  generalize (Course.start p input client).run moves = s at rostered
  have all := rostered.mirrors.told.taken
  have count := rostered_taken input s rostered
  have ordered : records.Pairwise fun r r' => r.ordinal < r'.ordinal := by
    rw [← List.pairwise_map, rostered.mirrors.ordinals]
    exact List.pairwise_lt_range
  refine ⟨?_, ordered.filter _, ?_, ?_, ?_, resolved_carry input s rostered⟩
  · rw [count, ← all, List.drop_left' (by simp)]
  · rw [count, ← all, List.take_left' (by simp)]
    exact handed_carry input s rostered
  · intro i call found
    exact message_at records _ _ (rostered.mirrors.told.offered i call found)
  · intro i call next found after full
    exact offered_again _ _ rostered.mirrors.told.offered i call next found after full

theorem sample_sends : Sample.records ≠ [] ∧
    Sent Sample.publisher Sample.input.attributes Sample.records Sample.course :=
  ⟨by decide, course_sends Sample.publisher Sample.input Sample.client Sample.moves Sample.records
    rfl (by decide)⟩

end Courier
