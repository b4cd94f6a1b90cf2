import Courier.Proofs.Assembly
import Courier.Proofs.Lifecycle

set_option autoImplicit false

namespace Courier

def Input.messageCount? (input : Input) : Option Nat :=
  input.attributes[Artifact.msgCount]?.bind (Decimal.upTo? Decimal.max64)

def Batch.CycleResult.artifact? (r : Batch.CycleResult) : Relationship → Option Artifact
  | .success => r.success
  | .failure => r.failure

def Fate.part? : Relationship → Record × Fate (Option Outcome) → Option Bytes
  | .success => success?
  | .failure => failure?

def Course.bundle (p : Publisher) (records : List Record) (side : Relationship) (s : Course) :
    List (Record × Bytes) :=
  (s.fates p records).filterMap fun x => (Fate.part? side x).map fun octets => (x.1, octets)

-- An artifact holds what its records add and counts those records.
structure Artifact.Bundles (a : Artifact) (bundle : List (Record × Bytes)) : Prop where
  content : a.content = (bundle.map Prod.snd).flatten
  count : a.messageCount? = some bundle.length

theorem bundle_octets (p : Publisher) (records : List Record) (side : Relationship) (s : Course) :
    (s.bundle p records side).map Prod.snd = (s.fates p records).filterMap (Fate.part? side) := by
  rw [Course.bundle, List.map_filterMap]
  refine List.filterMap_congr fun x _ => ?_
  rw [Option.map_map]
  exact Option.map_id'

theorem bundle_records (p : Publisher) (records : List Record) (side : Relationship) (s : Course) :
    ((s.bundle p records side).map Prod.fst).Sublist ((s.fates p records).map Prod.fst) := by
  rw [Course.bundle]
  induction s.fates p records with
  | nil => exact List.Sublist.slnil
  | cons x fates ih =>
    rw [List.filterMap_cons]
    cases Fate.part? side x with
    | none => exact ih.cons x.1
    | some octets => exact ih.cons_cons x.1

variable {p : Publisher} {records : List Record} {roster : List Entry}

theorem fates_part (input : Input) (s : Course) (rostered : CourseRostered p input records s roster)
    (resolved : s.batch.stage = .resolved) (side : Relationship) :
    (s.fates p records).filterMap (Fate.part? side) =
      (s.batch.ledger.part side).toList.map Prod.snd := by
  obtain ⟨successes, failures⟩ := fates_ledger input s rostered resolved
  cases side with
  | success => exact successes
  | failure => exact failures

theorem cycle_artifact (input : Input) (s : Course)
    (rostered : CourseRostered p input records s roster) (pending : s.batch.stage ≠ .resolved)
    (resolved : (s.step .cycle).batch.stage = .resolved)
    (side : Relationship) :
    (s.batch.cycle s.client).1.artifact? side = Ledger.artifact? side
      ((s.step .cycle).batch.ledger.part side) p.settings.topic input.attributes := by
  obtain ⟨success, failure⟩ := Prod.mk.inj (cycle_result input s rostered pending resolved)
  cases side with
  | success => exact success
  | failure => exact failure

theorem artifact_emits (r : Batch.CycleResult) (side : Relationship) (a : Artifact)
    (brought : a ∈ r.artifact? side) : r.emits = true := by
  cases side with
  | success =>
    have success : r.success = some a := brought
    rw [Batch.CycleResult.emits, success, Option.isSome_some, Bool.true_or]
  | failure =>
    have failure : r.failure = some a := brought
    rw [Batch.CycleResult.emits, failure, Option.isSome_some, Bool.or_true]

theorem bundle_lengths (input : Input) (s : Course)
    (rostered : CourseRostered p input records s roster) (resolved : s.batch.stage = .resolved) :
    (s.bundle p records .success).length + (s.bundle p records .failure).length =
      records.length := by
  have total := course_total input s rostered resolved
  rw [← (s.bundle p records .success).length_map Prod.snd,
    ← (s.bundle p records .failure).length_map Prod.snd, bundle_octets, bundle_octets]
  exact total

theorem bundle_length (input : Input) (s : Course)
    (rostered : CourseRostered p input records s roster) (resolved : s.batch.stage = .resolved)
    (side : Relationship) :
    (s.bundle p records side).length ≤ records.length := by
  have both := bundle_lengths input s rostered resolved
  cases side with
  | success => omega
  | failure => omega

theorem bundled_artifact (input : Input) (s : Course)
    (rostered : CourseRostered p input records s roster) (pending : s.batch.stage ≠ .resolved)
    (resolved : (s.step .cycle).batch.stage = .resolved)
    (sized : records.length ≤ Decimal.max64) (side : Relationship) (a : Artifact)
    (brought : a ∈ (s.batch.cycle s.client).1.artifact? side) :
    a.relationship = side ∧ a.Bundles ((s.step .cycle).bundle p records side) := by
  obtain ⟨later, after⟩ := rostered_cycle input s rostered
  have octets := bundle_octets p records side (s.step .cycle)
  have fits := Nat.le_trans (bundle_length input _ after resolved side) sized
  have reports := artifact_reports side ((s.step .cycle).batch.ledger.part side)
    p.settings.topic input.attributes
  rw [cycle_artifact input s rostered pending resolved] at brought
  rw [← fates_part input _ after resolved, ← octets] at reports
  refine ⟨reports.relationship a brought, reports.content a brought, ?_⟩
  simpa using reports.count (by simpa using fits) a brought

theorem Batch.whole_count (b : Batch) : b.whole.messageCount? = b.input.messageCount? := by
  have other : compare Artifact.topicName Artifact.msgCount ≠ .eq := by decide
  rw [Artifact.messageCount?, Artifact.attribute?, Input.messageCount?, Batch.whole,
    Std.ExtTreeMap.getElem?_insert, if_neg other]

-- What the artifacts of the next cycle say of themselves.
structure Counted (p : Publisher) (input : Input) (s : Course) : Prop where
  bundled : ∀ records, p.format.parse p.key input.content = .ok records → records ≠ [] →
    ∀ side, ∀ a ∈ (s.batch.cycle s.client).1.artifact? side,
      a.relationship = side ∧ a.Bundles ((s.step .cycle).bundle p records side) ∧
        (((s.step .cycle).bundle p records side).map Prod.fst).Sublist records
  shared : ∀ records, p.format.parse p.key input.content = .ok records → records ≠ [] →
    (s.step .cycle).batch.stage = .resolved →
      ((s.step .cycle).bundle p records .success).length +
        ((s.step .cycle).bundle p records .failure).length = records.length
  whole : (∀ records, p.format.parse p.key input.content = .ok records → records = []) →
    ∀ side, ∀ a ∈ (s.batch.cycle s.client).1.artifact? side,
      side = .failure ∧ a.relationship = side ∧ a.content = input.content ∧
        a.messageCount? = input.messageCount?

/-- An artifact counts its records; an input that fails as a whole keeps the count that it came
with. -/
theorem cycles_counted (p : Publisher) (input : Input) (client : Client) (moves : List Move)
    (sized : input.content.length ≤ Decimal.max64) :
    Counted p input ((Course.start p input client).run moves) where
  bundled records parsed nonempty side a brought := by
    obtain ⟨roster, rostered⟩ := rostered_run input client moves parsed nonempty
    generalize (Course.start p input client).run moves = s at rostered brought ⊢
    obtain ⟨pending, resolved⟩ := s.batch.emits_resolves s.client (artifact_emits _ side a brought)
    have few := Nat.le_trans (parse_length p.format p.key input.content records parsed) sized
    obtain ⟨own, bundles⟩ := bundled_artifact input s rostered pending resolved few side a brought
    obtain ⟨_, after⟩ := rostered_cycle input s rostered
    have listed := bundle_records p records side (s.step .cycle)
    rw [course_covered input _ after resolved] at listed
    exact ⟨own, bundles, listed⟩
  shared records parsed nonempty resolved := by
    obtain ⟨_, after⟩ := rostered_run input client (moves ++ [.cycle]) parsed nonempty
    rw [Course.run_concat] at after
    exact bundle_lengths input _ after resolved
  whole nothing side a brought := by
    obtain ⟨fault, read⟩ := read_nothing p input.content nothing
    have barren := barren_run input _ moves (barren_start p input client fault read)
    generalize (Course.start p input client).run moves = s at barren brought
    have pending := (s.batch.emits_resolves s.client (artifact_emits _ side a brought)).1
    obtain ⟨fault, unreadable⟩ := Option.isSome_iff_exists.mp (barren.pending pending).1
    rw [s.batch.cycle_unreadable s.client fault pending unreadable] at brought
    cases side with
    | success => cases brought
    | failure =>
      cases brought
      rw [s.batch.whole_count, Batch.whole, barren.source]
      exact ⟨rfl, rfl, rfl, rfl⟩

namespace Sample

def republished : Input :=
  { input with attributes := (∅ : Attributes).insert Artifact.msgCount ['5'] }

def people : Publisher :=
  { settings := .ofTopic "people".toList
    format := { schema := ["name".toList, "age".toList] }
    key := .none }

def invalid : Input :=
  { republished with content := Utf8.encode "invalid content".toList }

end Sample

theorem sample_counted :
    Sample.republished.content.length ≤ Decimal.max64 ∧
      Counted Sample.publisher Sample.republished
        ((Course.start Sample.publisher Sample.republished Sample.client).run Sample.moves) :=
  ⟨by decide, cycles_counted Sample.publisher Sample.republished Sample.client Sample.moves
    (by decide)⟩

theorem count_inherited : ¬ ∀ (p : Publisher) (input : Input) (client : Client)
    (moves : List Move),
    (∀ records, p.format.parse p.key input.content = .ok records → records = []) →
      ∀ a ∈ (((Course.start p input client).run moves).batch.cycle
          ((Course.start p input client).run moves).client).1.artifact? .failure,
        a.messageCount? = none ∨ a.messageCount? = some 0 := by
  intro fresh
  have nothing : ∀ records, Sample.people.format.parse Sample.people.key
      Sample.invalid.content = .ok records → records = [] := by
    intro records parsed
    have fails : (Sample.people.format.parse Sample.people.key
      Sample.invalid.content).toOption = none := by decide
    rw [parsed] at fails
    cases fails
  have stale : ((((Course.start Sample.people Sample.invalid Sample.client).run []).batch.cycle
      Sample.client).1.artifact? .failure).map Artifact.messageCount? = some (some 5) := by decide
  obtain ⟨a, failed, five⟩ := Option.map_eq_some_iff.mp stale
  rcases fresh Sample.people Sample.invalid Sample.client [] nothing a failed with absent | zero
  · rw [five] at absent
    cases absent
  · rw [five] at zero
    cases zero

end Courier
