import Courier.Proofs.Artifacts
import Mathlib.Data.List.Basic
import Mathlib.Data.List.Induction

set_option autoImplicit false

namespace Courier.Ledger

@[ext]
structure Note where
  side : Relationship
  ordinal : Nat
  octets : Bytes
deriving DecidableEq

def note (l : Ledger) (n : Note) : Ledger :=
  match n.side with
  | .success => l.recordSuccess n.ordinal n.octets
  | .failure => l.recordFailure n.ordinal n.octets

def ofNotes (notes : List Note) : Ledger := notes.foldl note {}

def part (l : Ledger) : Relationship → Std.ExtTreeMap Nat Bytes
  | .success => l.success
  | .failure => l.failure

def sorted (side : Relationship) (notes : List Note) : List Note :=
  (notes.filter (·.side = side)).mergeSort fun x y => x.ordinal ≤ y.ordinal

def parts (side : Relationship) (notes : List Note) : List Bytes :=
  (sorted side notes).map Note.octets

theorem note_part (l : Ledger) (n : Note) (side : Relationship) (i : Nat) :
    ((l.note n).part side)[i]? =
      if n.side = side ∧ n.ordinal = i then some n.octets else (l.part side)[i]? := by
  obtain ⟨own, ordinal, octets⟩ := n
  cases own <;> cases side <;>
    simp [note, part, recordSuccess, recordFailure, Std.ExtTreeMap.getElem?_insert]

theorem notes_part (notes : List Note) (once : (notes.map Note.ordinal).Nodup)
    (side : Relationship) (i : Nat) (octets : Bytes) :
    ((ofNotes notes).part side)[i]? = some octets ↔ ⟨side, i, octets⟩ ∈ notes := by
  induction notes using List.reverseRecOn with
  | nil => cases side <;> simp [ofNotes, part]
  | append_singleton notes n ih =>
    rw [List.map_append, List.nodup_append] at once
    obtain ⟨earlier, _, apart⟩ := once
    have last : ofNotes (notes ++ [n]) = (ofNotes notes).note n := List.foldl_append
    rw [last, note_part, List.mem_append, List.mem_singleton, ← ih earlier]
    by_cases here : n.side = side ∧ n.ordinal = i
    · obtain ⟨rfl, rfl⟩ := here
      have absent : ((ofNotes notes).part n.side)[n.ordinal]? ≠ some octets := by
        rw [ne_eq, ih earlier]
        intro member
        exact apart _ (List.mem_map_of_mem member) n.ordinal (by simp) rfl
      rw [if_pos ⟨rfl, rfl⟩, or_iff_right absent, Option.some_inj, Note.ext_iff]
      simp [eq_comm]
    · rw [if_neg here, or_iff_left]
      rintro rfl
      exact here ⟨rfl, rfl⟩

theorem mem_sorted (side : Relationship) (notes : List Note) (n : Note) :
    n ∈ sorted side notes ↔ n ∈ notes ∧ n.side = side := by
  rw [sorted, List.mem_mergeSort, List.mem_filter, decide_eq_true_iff]

theorem sorted_ordered (side : Relationship) (notes : List Note)
    (once : (notes.map Note.ordinal).Nodup) :
    (sorted side notes).Pairwise fun x y => x.ordinal < y.ordinal := by
  have weakly := @List.pairwise_mergeSort Note (fun x y => decide (x.ordinal ≤ y.ordinal))
    (by simpa using fun _ _ _ => Nat.le_trans) (by simpa using fun _ _ => Nat.le_total _ _)
    (notes.filter (·.side = side))
  have distinct : (sorted side notes).Pairwise fun x y => x.ordinal ≠ y.ordinal := by
    have apart := (List.pairwise_map.mp once).filter fun n => decide (n.side = side)
    exact ((List.mergeSort_perm _ _).pairwise_iff fun apart => Ne.symm apart).mpr apart
  refine (weakly.and distinct).imp fun ⟨below, apart⟩ => ?_
  exact Nat.lt_of_le_of_ne (of_decide_eq_true below) apart

theorem part_toList (notes : List Note) (once : (notes.map Note.ordinal).Nodup)
    (side : Relationship) :
    ((ofNotes notes).part side).toList =
      (sorted side notes).map fun n => (n.ordinal, n.octets) := by
  refine Positions.toList_unique _ _ ?_ fun i octets => ?_
  · exact List.pairwise_map.mpr (sorted_ordered side notes once)
  · rw [notes_part notes once, List.mem_map]
    constructor
    · rintro ⟨n, member, same⟩
      obtain ⟨listed, rfl⟩ := (mem_sorted side notes n).mp member
      cases same
      exact listed
    · intro member
      exact ⟨_, (mem_sorted side notes _).mpr ⟨member, rfl⟩, rfl⟩

theorem part_values (notes : List Note) (once : (notes.map Note.ordinal).Nodup)
    (side : Relationship) :
    ((ofNotes notes).part side).toList.map Prod.snd = parts side notes := by
  rw [part_toList notes once, List.map_map]
  rfl

theorem part_size (notes : List Note) (once : (notes.map Note.ordinal).Nodup)
    (side : Relationship) : ((ofNotes notes).part side).size = (parts side notes).length := by
  rw [← part_values notes once, List.length_map, Std.ExtTreeMap.length_toList]

theorem parts_length (notes : List Note) :
    (parts .success notes).length + (parts .failure notes).length = notes.length := by
  have other : (notes.filter fun n => !decide (n.side = .success)) =
      notes.filter fun n => decide (n.side = .failure) := by
    refine List.filter_congr fun n _ => ?_
    cases n.side <;> rfl
  have all := notes.length_eq_length_filter_add fun n => decide (n.side = .success)
  rw [other] at all
  simpa [parts, sorted] using all.symm

theorem notes_permuted (notes more : List Note) (once : (notes.map Note.ordinal).Nodup)
    (same : notes.Perm more) : ofNotes more = ofNotes notes := by
  have again : (more.map Note.ordinal).Nodup := (same.map Note.ordinal).nodup_iff.mp once
  have sides (side : Relationship) : (ofNotes more).part side = (ofNotes notes).part side := by
    refine Std.ExtTreeMap.ext_getElem? fun i => Option.ext fun octets => ?_
    rw [notes_part more again, notes_part notes once, same.mem_iff]
  have success := sides .success
  have failure := sides .failure
  exact congrArg₂ Ledger.mk success failure

-- A ledger that has notes on its two sides, with its artifacts.
structure Assembles (notes : List Note) (topic : Text) (attributes : Attributes) (l : Ledger) :
    Prop where
  success : Reports .success topic attributes (parts .success notes)
    (l.assemble topic attributes).1
  failure : Reports .failure topic attributes (parts .failure notes)
    (l.assemble topic attributes).2
  sizes : l.successCount = (parts .success notes).length ∧
    l.failureCount = (parts .failure notes).length
  counted : l.successCount + l.failureCount = l.resolvedCount
  total : l.resolvedCount = notes.length

theorem notes_assemble (notes : List Note) (once : (notes.map Note.ordinal).Nodup) (topic : Text)
    (attributes : Attributes) : Assembles notes topic attributes (ofNotes notes) := by
  have reports (side : Relationship) := artifact_reports side ((ofNotes notes).part side) topic
    attributes
  simp only [part_values notes once] at reports
  have sizes : (ofNotes notes).successCount = (parts .success notes).length ∧
      (ofNotes notes).failureCount = (parts .failure notes).length :=
    ⟨part_size notes once .success, part_size notes once .failure⟩
  refine ⟨reports .success, reports .failure, sizes, rfl, ?_⟩
  rw [resolvedCount, sizes.1, sizes.2, parts_length]

/-- Artifacts do not depend on the order in which the outcomes were entered. -/
theorem assembly_permuted (notes more : List Note) (once : (notes.map Note.ordinal).Nodup)
    (same : notes.Perm more) (topic : Text) (attributes : Attributes) :
    (ofNotes more).assemble topic attributes = (ofNotes notes).assemble topic attributes ∧
      Assembles notes topic attributes (ofNotes notes) := by
  rw [notes_permuted notes more once same]
  exact ⟨rfl, notes_assemble notes once topic attributes⟩

namespace Sample

def notes : List Note :=
  [⟨.success, 2, [99, 10]⟩, ⟨.failure, 1, [98, 10]⟩, ⟨.success, 3, []⟩, ⟨.success, 0, [97, 10]⟩]

def attributes : Attributes :=
  ((∅ : Attributes).insert Artifact.msgCount ['7']).insert Artifact.topicName ['o']

end Sample

example : ((ofNotes Sample.notes).assemble ['t'] Sample.attributes).1.map
    (fun a => (a.content, a.messageCount?)) = some ([97, 10, 99, 10], some 3) := by decide

theorem sample_assembled :
    (Sample.notes.map Note.ordinal).Nodup ∧ Sample.notes.Perm Sample.notes.reverse ∧
      (ofNotes Sample.notes.reverse).assemble ['t'] Sample.attributes =
        (ofNotes Sample.notes).assemble ['t'] Sample.attributes ∧
      Assembles Sample.notes ['t'] Sample.attributes (ofNotes Sample.notes) :=
  ⟨by decide, (List.reverse_perm _).symm, assembly_permuted Sample.notes Sample.notes.reverse
    (by decide) (List.reverse_perm _).symm ['t'] Sample.attributes⟩

end Courier.Ledger
