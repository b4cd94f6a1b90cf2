import Courier.Proofs.Artifacts
import Courier.Proofs.Barren
import Courier.Proofs.Driving
import Courier.Proofs.Turns

set_option autoImplicit false

namespace Courier

variable {p : Publisher} {records : List Record} {roster : List Entry}

def Call.arrives (given : List (Nat × Signal)) (call : Call) : Bool :=
  decide (call.outcome? given = some .delivered)

-- What two courses have in common where only their schedules differ: the calls that were not turned
-- away, taken in turn, are delivered in both or in neither.
def SameArrivals (s s' : Course) : Prop :=
  ∀ (j : Nat) (call call' : Call), s.handed[j]? = some call → s'.handed[j]? = some call' →
    (call.outcome? s.given = some .delivered ↔ call'.outcome? s'.given = some .delivered)

theorem arrivals_same (s s' : Course) (same : (s.handed.map fun call => call.arrives s.given) =
    s'.handed.map fun call => call.arrives s'.given) : SameArrivals s s' := by
  intro j call call' here there
  have at_j := congrArg (fun l => l[j]?) same
  simp only [List.getElem?_map, here, there, Option.map_some, Option.some.injEq] at at_j
  simpa [Call.arrives] using at_j

def Fate.arrived? : Record × Fate Bool → Option Bytes
  | (r, .sent _ true) => some r.raw
  | _ => none

def Fate.lost? : Record × Fate Bool → Option Bytes
  | (r, .unwritable) => some r.raw
  | (_, .sent payload false) => some payload
  | _ => none

theorem idle_arrives (given : List (Nat × Signal)) (e : Entry) (idle : e.inFlight? = none)
    (follows : e.Follows given) :
    e.success? = Fate.arrived? (e.record, e.fate.2.map fun call => call.arrives given) ∧
      e.failure? = Fate.lost? (e.record, e.fate.2.map fun call => call.arrives given) := by
  rcases idle_cases given e idle follows with ⟨r, rfl⟩ | ⟨r, payload, call, outcome, rfl, ended⟩
  · exact ⟨rfl, rfl⟩
  · simp only [Entry.fate, Entry.record, Fate.map, Call.arrives, ended]
    cases outcome with
    | delivered => exact ⟨rfl, rfl⟩
    | failed report => exact ⟨rfl, rfl⟩

theorem ledger_views (input : Input) (s : Course)
    (rostered : CourseRostered p input records s roster) (resolved : s.batch.stage = .resolved) :
    Positions.Views s.batch.ledger.success
        (p.format.fates records (s.handed.map fun call => call.arrives s.given)) Fate.arrived? ∧
      Positions.Views s.batch.ledger.failure
        (p.format.fates records (s.handed.map fun call => call.arrives s.given)) Fate.lost? := by
  have idle := resolved_idle input s rostered resolved
  have follows := rostered.mirrors.told.follows
  have fates := fates_roster (fun call => call.arrives s.given) rostered.mirrors.told.written
  rw [rostered_handed input s rostered, ← resolved_records input s rostered resolved, fates]
  constructor
  · refine Positions.views_map _ _ _ _ _ rostered.mirrors.tracker.success fun e member => ?_
    exact (idle_arrives s.given e (idle e member) (follows e member)).1.symm
  · refine Positions.views_map _ _ _ _ _ rostered.mirrors.tracker.failure fun e member => ?_
    exact (idle_arrives s.given e (idle e member) (follows e member)).2.symm

theorem ledger_agrees (input : Input) (q : Publisher) (s s' : Course) (roster' : List Entry)
    (rostered : CourseRostered p input records s roster)
    (rostered' : CourseRostered q input records s' roster')
    (resolved : s.batch.stage = .resolved) (resolved' : s'.batch.stage = .resolved)
    (format : q.format = p.format) (agree : SameArrivals s s') :
    s.batch.ledger = s'.batch.ledger := by
  have count := (resolved_carry input s rostered resolved).length_eq
  have count' := (resolved_carry input s' rostered' resolved').length_eq
  rw [format, count] at count'
  have arrivals : (s.handed.map fun call => call.arrives s.given) =
      s'.handed.map fun call => call.arrives s'.given := by
    apply List.ext_getElem (by simpa using count')
    intro j here there
    simp only [List.length_map] at here there
    have same := agree j _ _ (List.getElem?_eq_getElem here) (List.getElem?_eq_getElem there)
    simp only [List.getElem_map, Call.arrives, same]
  obtain ⟨success, failure⟩ := ledger_views input s rostered resolved
  obtain ⟨success', failure'⟩ := ledger_views input s' rostered' resolved'
  rw [format, ← arrivals] at success' failure'
  have successes : s.batch.ledger.success = s'.batch.ledger.success := by
    apply Std.ExtTreeMap.ext_getElem?
    intro i
    rw [success i, success' i]
  have failures : s.batch.ledger.failure = s'.batch.ledger.failure := by
    apply Std.ExtTreeMap.ext_getElem?
    intro i
    rw [failure i, failure' i]
  cases ledger : s.batch.ledger
  cases ledger' : s'.batch.ledger
  rw [ledger, ledger'] at successes failures
  exact congrArg₂ Ledger.mk successes failures

def InTurn (p : Publisher) (input : Input) (s : Course) : Prop :=
  ∀ (j : Nat) (call : Call), s.handed[j]? = some call → ∃ records r,
    p.format.parse p.key input.content = .ok records ∧
      (records.filter p.format.writes)[j]? = some r ∧
      Carries p input.attributes r call.message ∧ Belongs s call r

theorem course_turn (p : Publisher) (input : Input) (client : Client) (moves : List Move) :
    InTurn p input ((Course.start p input client).run moves) := by
  intro j call found
  rcases read_cases p input.content with ⟨fault, read⟩ | ⟨records, parsed, nonempty⟩
  · have barren := barren_run input _ moves (barren_start p input client fault read)
    rw [Course.handed, barren.silent] at found
    cases found
  · obtain ⟨roster, rostered⟩ := rostered_run input client moves parsed nonempty
    obtain ⟨r, place, carries, belongs⟩ := handed_turn input _ rostered j call found
    exact ⟨records, r, parsed, place, carries, belongs⟩

theorem courses_agree (p q : Publisher) (format : q.format = p.format) (key : q.key = p.key)
    (topic : q.settings.topic = p.settings.topic) (input : Input) (client client' : Client)
    (moves moves' : List Move)
    (resolved : ((Course.start p input client).run moves).batch.stage = .resolved)
    (resolved' : ((Course.start q input client').run moves').batch.stage = .resolved)
    (agree : SameArrivals ((Course.start p input client).run moves)
      ((Course.start q input client').run moves')) :
    ((Course.start p input client).run moves).emitted =
      ((Course.start q input client').run moves').emitted := by
  rcases read_cases p input.content with ⟨fault, read⟩ | ⟨records, parsed, nonempty⟩
  · have read' : q.read input.content = ([], some fault) := by
      rw [← read, Publisher.read, Publisher.read, format, key]
    have barren := barren_run input _ moves (barren_start p input client fault read)
    have barren' := barren_run input _ moves' (barren_start q input client' fault read')
    rw [barren.settled resolved, barren'.settled resolved', topic]
  · have parsed' : q.format.parse q.key input.content = .ok records := by
      rw [format, key]
      exact parsed
    obtain ⟨roster, rostered⟩ := rostered_run input client moves parsed nonempty
    obtain ⟨roster', rostered'⟩ := rostered_run input client' moves' parsed' nonempty
    have ledgers :=
      ledger_agrees input q _ _ roster' rostered rostered' resolved resolved' format agree
    rw [rostered.settled resolved, rostered'.settled resolved', topic, ledgers]

/-- Courses with the same arrivals bring the same artifacts, whatever their schedules. -/
theorem schedules_agree (p q : Publisher) (format : q.format = p.format) (key : q.key = p.key)
    (topic : q.settings.topic = p.settings.topic) (input : Input) (client client' : Client)
    (moves moves' : List Move) :
    InTurn p input ((Course.start p input client).run moves) ∧
      InTurn q input ((Course.start q input client').run moves') ∧
      (((Course.start p input client).run moves).batch.stage = .resolved →
        ((Course.start q input client').run moves').batch.stage = .resolved →
        SameArrivals ((Course.start p input client).run moves)
          ((Course.start q input client').run moves') →
        ((Course.start p input client).run moves).emitted =
          ((Course.start q input client').run moves').emitted) ∧
      ∀ (σ : Type) (clock : σ) (scheduler : Scheduler σ) (maxCycles : Option Nat)
        (report : DriveReport) (after : Ride σ),
        Ride.drive scheduler maxCycles ⟨p.openBatch input, client, clock⟩ =
          some (.ok report, after) →
        ∃ driven : List Move,
          ((Course.start p input client).run driven).batch.stage = .resolved ∧
            ((Course.start p input client).run driven).emitted =
              (report.success.toList, report.failure.toList) := by
  refine ⟨course_turn p input client moves, course_turn q input client' moves',
    courses_agree p q format key topic input client client' moves moves', ?_⟩
  intro σ clock scheduler maxCycles report after ended
  obtain ⟨driven, _, resolved, emitted⟩ :=
    drive_course p input client clock scheduler maxCycles report after ended
  exact ⟨driven, resolved, emitted⟩

theorem sample_agrees :
    ((Course.start Sample.publisher Sample.input Sample.client).run Sample.ended).emitted =
      ((Course.start Sample.patient Sample.input Sample.brusque).run Sample.waits).emitted := by
  have agreement := schedules_agree Sample.publisher Sample.patient rfl rfl rfl Sample.input
    Sample.client Sample.brusque Sample.ended Sample.waits
  exact agreement.2.2.1 (by decide) (by decide) (arrivals_same _ _ (by decide))

end Courier
