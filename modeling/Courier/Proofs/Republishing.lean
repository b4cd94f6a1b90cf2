import Courier.Proofs.Artifacts
import Courier.Proofs.Barren
import Courier.Proofs.Renderings

set_option autoImplicit false

namespace Courier

namespace Fate

def isDelivered : Record × Fate (Option Outcome) → Bool
  | (_, .sent _ (some .delivered)) => true
  | _ => false

def isFailed : Record × Fate (Option Outcome) → Bool
  | (_, .unwritable) => true
  | (_, .sent _ (some (.failed _))) => true
  | _ => false

end Fate

def Course.delivered (p : Publisher) (records : List Record) (s : Course) : List Record :=
  ((s.fates p records).filter Fate.isDelivered).map Prod.fst

def Course.failed (p : Publisher) (records : List Record) (s : Course) : List Record :=
  ((s.fates p records).filter Fate.isFailed).map Prod.fst

def Record.shown (r : Record) : List Text × Option Text := (r.fields, r.key)

def Publisher.reread (p : Publisher) : Option Artifact → Except Malformed (List Record)
  | none => .ok []
  | some artifact => p.format.parse p.key artifact.content

-- An artifact that is read as some records, in order and numbered anew.
structure Publisher.Restores (p : Publisher) (artifact : Option Artifact) (kept : List Record)
    (again : List Record) : Prop where
  read : p.reread artifact = .ok again
  shown : again.map Record.shown = kept.map Record.shown
  ordinals : again.map Record.ordinal = List.range kept.length

variable {p : Publisher} {records : List Record}

variable {roster : List Entry}

def Format.Ended (f : Format) (x : Record × Fate (Option Outcome)) : Prop :=
  ∃ payload outcome, x.2 = .sent payload (some outcome) ∧ f.row? x.1 = some (payload, x.1.fields)

theorem delivered_raw (fates : List (Record × Fate (Option Outcome))) :
    fates.filterMap Fate.success? =
      ((fates.filter Fate.isDelivered).map Prod.fst).map Record.raw := by
  rw [List.map_map, ← List.filterMap_eq_map, List.filterMap_filter]
  apply List.filterMap_congr
  rintro ⟨r, fate⟩ _
  cases fate with
  | unwritable => rfl
  | sent payload outcome =>
    cases outcome with
    | none => rfl
    | some outcome => cases outcome <;> rfl

-- The artifacts of a batch hold all its records, each in one of them.
structure Republished (p : Publisher) (records : List Record) (s : Course)
    (success failure : Option Artifact) (arrived lost : List Record) : Prop where
  emitted : s.emitted = (success.toList, failure.toList)
  succeeded : p.Restores success (s.delivered p records) arrived
  failed : p.Restores failure (s.failed p records) lost
  once : (s.delivered p records ++ s.failed p records).Perm records
  whole : ((arrived ++ lost).map Record.shown).Perm (records.map Record.shown)

theorem republished (s : Course) (success failure : Option Artifact)
    (arrived lost : List Record) (emitted : s.emitted = (success.toList, failure.toList))
    (succeeded : p.Restores success (s.delivered p records) arrived)
    (failed : p.Restores failure (s.failed p records) lost)
    (once : (s.delivered p records ++ s.failed p records).Perm records) :
    Republished p records s success failure arrived lost := by
  refine ⟨emitted, succeeded, failed, once, ?_⟩
  rw [List.map_append, succeeded.shown, failed.shown, ← List.map_append]
  exact once.map Record.shown

namespace Sample

def turns : List Move :=
  [.cycle, .event (.resolve 0 .crashed), .event (.run 0), .cycle, .event (.run 2),
    .event (.run 3), .cycle]

end Sample

end Courier
