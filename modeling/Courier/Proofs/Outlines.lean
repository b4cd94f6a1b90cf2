import Courier.Proofs.Loaders
import Mathlib.Data.List.Nodup

set_option autoImplicit false

namespace Courier.Settings

structure Slot where
  before : Layer := []
  name : Text
  after : Layer := []

def Slot.fill (s : Slot) (v : Value) : Layer := s.before ++ (s.name, v) :: s.after

structure Outline where
  origin : Option Text
  outer : Slot
  inner : Slot

namespace Outline

def entries (o : Outline) (properties : List (Text × Text)) : Layer :=
  properties.map fun x => (x.1, .scalar o.origin (.text x.2))

def part (o : Outline) (properties : List (Text × Text)) : Value :=
  .table o.origin (o.inner.fill (.table o.origin (o.entries properties)))

def document (o : Outline) (properties : List (Text × Text)) : Layer :=
  o.outer.fill (o.part properties)

theorem entries_flat (o : Outline) (properties : List (Text × Text)) :
    ∀ e ∈ o.entries properties, e.2.isTable = false := by
  intro e member
  obtain ⟨x, _, rfl⟩ := List.mem_map.mp member
  rfl

-- The names are those of the properties and of their section, in whatever case. No name at the top
-- is the path to something else, and names that are alike in lower case are those of properties.
structure Tidy (o : Outline) : Prop where
  titled : Text.lower o.outer.name = "publish".toList
  labelled : Text.lower o.inner.name = "mapped_properties".toList
  undotted : ∀ e ∈ o.document [], '.' ∉ e.1 ∧ '[' ∉ e.1
  apart : (Value.table none (o.document [])).Apart

end Outline

namespace Slot

variable {origin : Option Text} {s : Slot} {v w : Value}

theorem fill_names {α : Type} (s : Slot) (f : Text → α) (v w : Value) :
    ((s.fill v).map fun e => f e.1) = (s.fill w).map fun e => f e.1 := by
  simp [fill]

theorem fill_nodup (apart : (Value.table origin (s.fill v)).Apart) (table : v.isTable = true) :
    ((s.fill v).map fun e => Text.lower e.1).Nodup ∧ ∀ e ∈ s.fill v, e.2.Apart := by
  cases apart with
  | leaf _ leaf => cases leaf
  | flat _ _ leaves =>
    rw [leaves (s.name, v) (by simp [fill])] at table
    cases table
  | table _ _ nodup each => exact ⟨nodup, each⟩

theorem fill_apart (apart : (Value.table origin (s.fill v)).Apart) (table : v.isTable = true)
    (own : w.Apart) : (Value.table origin (s.fill w)).Apart := by
  obtain ⟨nodup, each⟩ := fill_nodup apart table
  rw [s.fill_names Text.lower v w] at nodup
  refine .table _ _ nodup fun e member => ?_
  rcases List.mem_append.mp member with front | rest
  · exact each e (List.mem_append_left _ front)
  · rcases List.mem_cons.mp rest with rfl | back
    · exact own
    · exact each e (List.mem_append_right _ (List.mem_cons_of_mem _ back))

section

variable {m : Type → Type} {loader : Loader m} {low : Value → Value}
  (lowering : Lowering loader low)

include lowering

theorem fill_entry (apart : (Value.table origin (s.fill v)).Apart) (table : v.isTable = true)
    (name : Text) (x : Value) :
    Value.entry? name (low (.table origin (s.fill v))) = some x ↔
      ∃ e ∈ s.fill v, Text.lower e.1 = name ∧ low e.2 = x := by
  obtain ⟨nodup, _⟩ := fill_nodup apart table
  constructor
  · exact lowering.written origin _ apart name x
  · rintro ⟨e, member, rfl, rfl⟩
    obtain ⟨y, found⟩ := lowering.present origin _ apart e member
    obtain ⟨other, listed, alike, rfl⟩ := lowering.written origin _ apart _ y found
    rw [found, List.inj_on_of_nodup_map nodup listed member alike]

theorem fill_there (apart : (Value.table origin (s.fill v)).Apart) (table : v.isTable = true) :
    Value.entry? (Text.lower s.name) (low (.table origin (s.fill v))) = some (low v) :=
  (fill_entry lowering apart table _ _).mpr ⟨(s.name, v), by simp [fill], rfl, rfl⟩

theorem fill_beside (apart : (Value.table origin (s.fill v)).Apart) (table : v.isTable = true)
    (own : w.Apart) (table' : w.isTable = true) (name : Text) (other : name ≠ Text.lower s.name) :
    Value.entry? name (low (.table origin (s.fill w))) =
      Value.entry? name (low (.table origin (s.fill v))) := by
  have elsewhere : ∀ (a b : Value) e, e ∈ s.fill a → Text.lower e.1 = name → e ∈ s.fill b := by
    rintro a b e member rfl
    rcases List.mem_append.mp member with front | rest
    · exact List.mem_append_left _ front
    · rcases List.mem_cons.mp rest with rfl | back
      · exact absurd rfl other
      · exact List.mem_append_right _ (List.mem_cons_of_mem _ back)
  refine Option.ext fun x => ?_
  rw [fill_entry lowering (fill_apart apart table own) table', fill_entry lowering apart table]
  exact exists_congr fun e => ⟨fun ⟨member, alike, same⟩ =>
    ⟨elsewhere w v e member alike, alike, same⟩,
    fun ⟨member, alike, same⟩ => ⟨elsewhere v w e member alike, alike, same⟩⟩

end

end Slot

namespace Outline

variable {o : Outline} (tidy : o.Tidy) (properties : List (Text × Text))

include tidy

theorem part_apart : (o.part properties).Apart := by
  have own : (o.part []).Apart :=
    (Slot.fill_nodup tidy.apart rfl).2 (o.outer.name, o.part []) (by simp [Slot.fill])
  exact Slot.fill_apart own rfl (.flat _ _ (o.entries_flat properties))

theorem document_apart : (Value.table none (o.document properties)).Apart :=
  Slot.fill_apart tidy.apart rfl (part_apart tidy properties)

theorem document_undotted : ∀ e ∈ o.document properties, '.' ∉ e.1 ∧ '[' ∉ e.1 := by
  have names := o.outer.fill_names (fun n => '.' ∉ n ∧ '[' ∉ n) (o.part properties) (o.part [])
  have each : ∀ p ∈ (o.document []).map fun e => '.' ∉ e.1 ∧ '[' ∉ e.1, p := by
    intro p member
    obtain ⟨e, listed, rfl⟩ := List.mem_map.mp member
    exact tidy.undotted e listed
  intro e member
  exact each _ (names ▸ List.mem_map_of_mem member)

section

variable {m : Type → Type} {loader : Loader m} {low : Value → Value}
  (lowering : Lowering loader low)

include lowering

theorem section_there : Value.entry? "publish".toList (low (.table none (o.document properties))) =
    some (low (o.part properties)) := by
  rw [← tidy.titled]
  exact Slot.fill_there lowering (document_apart tidy properties) rfl

theorem properties_there :
    (low (.table none (o.document properties))).at? Setting.mappedProperties.path =
      some (low (.table o.origin (o.entries properties))) := by
  have inner : Value.entry? "mapped_properties".toList (low (o.part properties)) =
      some (low (.table o.origin (o.entries properties))) := by
    rw [← tidy.labelled]
    exact Slot.fill_there lowering (part_apart tidy properties) rfl
  change (Value.entry? "publish".toList _).bind (Value.at? ["mapped_properties".toList]) = _
  rw [section_there tidy properties lowering, Option.bind_some, Value.at_single, inner]

theorem section_named : (low (.table none (o.document properties))).Named .publish := by
  intro x found
  have there := section_there tidy properties lowering
  cases found.symm.trans there
  exact lowering.table _ _ (part_apart tidy properties)

theorem documents_alike : AlikeBut .mappedProperties (low (.table none (o.document properties)))
    (low (.table none (o.document []))) := by
  have flat : ∀ properties, (Value.table o.origin (o.entries properties)).Apart :=
    fun properties => .flat _ _ (o.entries_flat properties)
  refine ⟨lowering.table _ _ (document_apart tidy properties),
    lowering.table _ _ (document_apart tidy []), section_named tidy properties lowering,
    ?_, ?_⟩
  · intro g other
    refine Slot.fill_beside lowering (document_apart tidy []) rfl
      (part_apart tidy properties) rfl _ ?_
    rw [tidy.titled]
    exact Setting.Group.name_apart g .publish other
  · intro g group other
    have beside := Slot.fill_beside lowering (part_apart tidy []) rfl (flat properties) rfl
      g.name.toList (by
        rw [tidy.labelled]
        exact Setting.name_apart .mappedProperties g other)
    have below : ∀ properties, (low (.table none (o.document properties))).at? g.path =
        Value.entry? g.name.toList (low (o.part properties)) := by
      intro properties
      rw [Setting.path, group]
      change (Value.entry? "publish".toList _).bind (Value.at? [g.name.toList]) = _
      rw [section_there tidy properties lowering, Option.bind_some, Value.at_single]
    rw [below, below]
    exact beside

end

end Outline

-- The properties in lower case, each with the attribute that one of its name is taken from.
structure Lowered (properties : List (Text × Text)) (m : Attributes) : Prop where
  written : ∀ name source, m[name]? = some source →
    ∃ spelled, (spelled, source) ∈ properties ∧ Text.lower spelled = name
  present : ∀ x ∈ properties, Text.lower x.1 ∈ m

theorem lookup_member (es : Layer) (nodup : (es.map Prod.fst).Nodup) (e : Text × Value)
    (member : e ∈ es) : es.lookup e.1 = some e.2 := by
  obtain ⟨before, after, rfl⟩ := List.append_of_mem member
  refine List.lookup_eq_some_iff.mpr ⟨before, after, rfl, fun other earlier => ?_⟩
  rw [List.map_append, List.nodup_append] at nodup
  have apart := nodup.2.2 other.1 (List.mem_map_of_mem earlier) e.1 (by simp)
  simpa using Ne.symm apart

theorem mapping_made (text : Value → Option Text) (es : Layer)
    (each : ∀ e ∈ es, ∃ t, text e.2 = some t) :
    ∃ m : Attributes, ∀ name, (es.lookup name).map text = m[name]?.map some := by
  induction es with
  | nil => exact ⟨∅, by simp⟩
  | cons e es ih =>
    obtain ⟨name, v⟩ := e
    obtain ⟨t, here⟩ := each (name, v) List.mem_cons_self
    obtain ⟨m, made⟩ := ih fun other member => each other (List.mem_cons_of_mem _ member)
    refine ⟨m.insert name t, fun n => ?_⟩
    rw [List.lookup_cons, Std.ExtTreeMap.getElem?_insert]
    by_cases same : n = name
    · subst same
      simp only [beq_self_eq_true, Option.map_some, Std.compare_self, if_true]
      exact congrArg some here
    · rw [beq_false_of_ne same, if_neg (mt Std.compare_eq_iff_eq.mp (Ne.symm same))]
      exact made n

section

variable {m : Type → Type} {loader : Loader m} {low : Value → Value}
  (lowering : Lowering loader low) (o : Outline) (properties : List (Text × Text))

include lowering

theorem entries_written (name : Text) (v : Value)
    (found : Value.entry? name (low (.table o.origin (o.entries properties))) = some v) :
    ∃ p ∈ properties, Text.lower p.1 = name ∧ v = .scalar o.origin (.text p.2) := by
  have flat := o.entries_flat properties
  obtain ⟨e, member, alike, rfl⟩ := lowering.written _ _ (.flat _ _ flat) name v found
  rw [lowering.leaf e.2 (flat e member)]
  obtain ⟨p, listed, rfl⟩ := List.mem_map.mp member
  exact ⟨p, listed, alike, rfl⟩

theorem entries_present (p : Text × Text) (member : p ∈ properties) :
    ∃ v, Value.entry? (Text.lower p.1) (low (.table o.origin (o.entries properties))) =
      some v :=
  lowering.present _ _ (.flat _ _ (o.entries_flat properties))
    (p.1, .scalar o.origin (.text p.2)) (List.mem_map_of_mem member)

theorem properties_lowered {read : Value → Option Attributes}
    (mapping : Setting.Kind.Mapping read)
    (distinct : (low (.table o.origin (o.entries properties))).Distinct) :
    ∃ m, read (low (.table o.origin (o.entries properties))) = some m ∧ Lowered properties m := by
  have written := entries_written lowering o properties
  have present := entries_present lowering o properties
  have table := lowering.table _ _ (.flat o.origin _ (o.entries_flat properties))
  generalize low (.table o.origin (o.entries properties)) = x at *
  cases distinct with
  | scalar origin s => cases table
  | list origin vs => cases table
  | table origin es nodup _ =>
    obtain ⟨text, plain, each⟩ := mapping.each
    obtain ⟨m, made⟩ := mapping_made text es fun e member => by
      obtain ⟨p, _, _, value⟩ := written e.1 e.2 (lookup_member es nodup e member)
      exact ⟨p.2, by rw [value, plain]⟩
    refine ⟨m, (each origin es m nodup).mpr made, ?_, ?_⟩
    · intro name t held
      have said := made name
      rw [held, Option.map_some] at said
      obtain ⟨v, found, read⟩ := Option.map_eq_some_iff.mp said
      obtain ⟨p, listed, alike, rfl⟩ := written name v found
      rw [plain] at read
      cases read
      exact ⟨p.1, listed, alike⟩
    · intro p member
      obtain ⟨v, found⟩ := present p member
      have said := made (Text.lower p.1)
      rw [show es.lookup (Text.lower p.1) = some v from found, Option.map_some] at said
      obtain ⟨t, held, _⟩ := Option.map_eq_some_iff.mp said.symm
      rw [Std.ExtTreeMap.mem_iff_isSome_getElem?, held]
      rfl

end

end Courier.Settings
