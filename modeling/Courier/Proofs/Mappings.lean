import Courier.Proofs.Casing
import Courier.Proofs.Checks
import Courier.Proofs.Outlines
import Courier.Proofs.Spellings
import Courier.Proofs.Wire
import Mathlib.Data.List.Permutation

set_option autoImplicit false

namespace Courier

namespace Settings

theorem lowered_found (properties : List (Text × Text)) (mapped : Attributes)
    (lowered : Lowered properties mapped) (distinct : (properties.map Prod.fst).Nodup)
    (low : ∀ x ∈ properties, Text.lower x.1 = x.1) (name source : Text) :
    mapped[name]? = some source ↔ (name, source) ∈ properties := by
  have kept : ∀ other, mapped[name]? = some other → (name, other) ∈ properties := by
    intro other found
    obtain ⟨spelled, listed, same⟩ := lowered.written name other found
    rwa [← same, low _ listed]
  constructor
  · exact kept source
  · intro listed
    have present := lowered.present _ listed
    rw [low _ listed, Std.ExtTreeMap.mem_iff_isSome_getElem?] at present
    obtain ⟨other, found⟩ := Option.isSome_iff_exists.mp present
    have same := List.inj_on_of_nodup_map distinct (kept other found) listed rfl
    rw [found, (Prod.mk.inj same).2]

theorem lowered_whole (properties : List (Text × Text)) (mapped : Attributes)
    (lowered : Lowered properties mapped) (distinct : (properties.map Prod.fst).Nodup) :
    (∀ name source, mapped[name]? = some source ↔ (name, source) ∈ properties) ↔
      ∀ x ∈ properties, Text.lower x.1 = x.1 := by
  constructor
  · intro same x member
    obtain ⟨spelled, _, lower⟩ := lowered.written x.1 x.2 ((same x.1 x.2).mpr member)
    rw [← lower, Text.lower_lower]
  · exact lowered_found properties mapped lowered distinct

theorem outline_read {m : Type → Type} {loader : Loader m} {low : Value → Value}
    {part : (g : Setting.Group) → Value → Option g.Content}
    {read : (s : Setting) → Value → Option s.Content} (layered : Layered loader)
    (lowering : Lowering loader low) (byName : ByName loader part read)
    (mapping : Setting.Kind.Mapping (read .mappedProperties)) (o : Outline) (tidy : o.Tidy)
    (properties : List (Text × Text)) (base : Settings)
    (otherwise : loader.settings [o.document []] = .ok base) :
    ∃ m, loader.settings [o.document properties] =
        .ok { base with publish := { base.publish with mappedProperties := m } } ∧
      Lowered properties m := by
  have built : ∀ properties, loader.build [o.document properties] =
      low (.table none (o.document properties)) := fun properties =>
    lowering.built _ (Outline.document_undotted tidy properties)
      (Outline.document_apart tidy properties)
  obtain ⟨decoded, valid⟩ := (Loader.settings_iff _ base).mp otherwise
  have there := Outline.properties_there tidy properties lowering
  have distinct := layered.distinct [o.document properties]
  rw [built] at decoded distinct
  obtain ⟨m, made, lowered⟩ := properties_lowered lowering o properties mapping
    (Value.distinct_at _ _ _ distinct there)
  refine ⟨m, (Loader.settings_iff _ _).mpr ⟨?_, valid⟩, lowered⟩
  rw [built]
  refine (decode_change byName _ _ .mappedProperties m base
    (Outline.documents_alike tidy properties lowering) decoded).mpr
    ⟨?_, .inl (Outline.section_named tidy [] lowering)⟩
  rw [there]
  exact made

end Settings

def Message.Shows (message : Message) (properties : List (Text × Text))
    (attributes : Attributes) : Prop :=
  ∀ name value, message.properties[name]? = some value ↔
    ∃ source, (name, source) ∈ properties ∧ attributes[source]? = some value

theorem calls_carry (p : Publisher) (input : Input) (client : Client) (moves : List Move) :
    ∀ call ∈ ((Course.start p input client).run moves).calls, ∀ name : Text,
      call.message.properties[name]? =
        p.settings.mappedProperties[name]?.bind fun source => input.attributes[source]? := by
  intro call member
  rcases read_cases p input.content with ⟨fault, read⟩ | ⟨records, parsed, nonempty⟩
  · have barren := barren_run input _ moves (barren_start p input client fault read)
    rw [barren.silent] at member
    cases member
  · obtain ⟨roster, rostered⟩ := rostered_run input client moves parsed nonempty
    obtain ⟨i, found⟩ := List.mem_iff_getElem?.mp member
    obtain ⟨r, _, carries⟩ := message_at records _ _ (rostered.mirrors.told.offered i call found)
    exact carries.properties

structure Settings.Mapped (s base : Settings) (properties : List (Text × Text)) : Prop where
  rest : s = { base with
    publish := { base.publish with mappedProperties := s.publish.mappedProperties } }
  lowered : Lowered properties s.publish.mappedProperties
  whole : (∀ name source, s.publish.mappedProperties[name]? = some source ↔
      (name, source) ∈ properties) ↔ ∀ x ∈ properties, Text.lower x.1 = x.1
  sent : ∃ p, Publisher.make s.publish s.record = .ok p ∧ ∀ input client moves,
    ∀ call ∈ ((Course.start p input client).run moves).calls,
      (∀ name value, call.message.properties[name]? = some value →
        ∃ spelled source, (spelled, source) ∈ properties ∧ Text.lower spelled = name ∧
          input.attributes[source]? = some value) ∧
      ((∀ x ∈ properties, Text.lower x.1 = x.1) → call.message.Shows properties input.attributes)

theorem make_valid (s : Settings) (valid : s.validate = .ok ()) :
    ∃ p, Publisher.make s.publish s.record = .ok p := by
  have brokers : s.kafka.brokers ≠ [] := by
    intro nobody
    rw [Settings.validate, nobody] at valid
    cases valid
  have same := Publisher.make_checked s brokers
  rw [valid] at same
  cases made : Publisher.make s.publish s.record with
  | ok p => exact ⟨p, rfl⟩
  | error refusal =>
    rw [made] at same
    cases same

theorem mapped_sent (properties : List (Text × Text)) (s : Settings)
    (lowered : Settings.Lowered properties s.publish.mappedProperties)
    (distinct : (properties.map Prod.fst).Nodup) (p : Publisher) (own : p.settings = s.publish)
    (input : Input) (client : Client) (moves : List Move) :
    ∀ call ∈ ((Course.start p input client).run moves).calls,
      (∀ name value, call.message.properties[name]? = some value →
        ∃ spelled source, (spelled, source) ∈ properties ∧ Text.lower spelled = name ∧
          input.attributes[source]? = some value) ∧
      ((∀ x ∈ properties, Text.lower x.1 = x.1) →
        call.message.Shows properties input.attributes) := by
  intro call member
  have carries := calls_carry p input client moves call member
  rw [own] at carries
  constructor
  · intro name value shown
    rw [carries name, Option.bind_eq_some_iff] at shown
    obtain ⟨source, found, given⟩ := shown
    obtain ⟨spelled, listed, same⟩ := lowered.written name source found
    exact ⟨spelled, source, listed, same, given⟩
  · intro low name value
    rw [carries name, Option.bind_eq_some_iff]
    exact exists_congr fun source => and_congr_left fun _ =>
      Settings.lowered_found properties _ lowered distinct low name source

/-- Properties that are written in a file are loaded, and sent, under their names in lower case. -/
theorem properties_loaded {m : Type → Type} [Monad m] [LawfulMonad m] {loader : Settings.Loader m}
    {low : Settings.Value → Settings.Value}
    {part : (g : Setting.Group) → Settings.Value → Option g.Content}
    {read : (s : Setting) → Settings.Value → Option s.Content}
    (layered : Settings.Layered loader) (lowering : Settings.Lowering loader low)
    (environment : Settings.FromEnvironment loader) (byName : Settings.ByName loader part read)
    (converts : ∀ s : Setting, s.kind.Converts (read s)) (o : Settings.Outline) (tidy : o.Tidy)
    (properties : List (Text × Text)) (env : List (Text × Text)) (path : Bytes) (base : Settings)
    (found : loader.document path = pure (o.document properties))
    (silent : ∀ x ∈ env, Settings.naming.covers x.1 = false)
    (otherwise : loader.settings [o.document []] = .ok base)
    (distinct : (properties.map Prod.fst).Nodup) :
    ∃ s, loader.load env path = pure s ∧ s.Mapped base properties := by
  obtain ⟨mapped, settings, lowered⟩ :=
    Settings.outline_read layered lowering byName (converts .mappedProperties) o tidy properties
      base otherwise
  obtain ⟨p, made⟩ := make_valid _ ((Settings.Loader.settings_iff _ _).mp settings).2
  have sent := mapped_sent properties _ lowered distinct p (make_parts _ p made).1
  refine ⟨_, ?_, rfl, lowered, Settings.lowered_whole properties mapped lowered distinct, p, made,
    sent⟩
  rw [Settings.Loader.load_document env path _ found,
    Settings.variables_silent environment Settings.naming env silent,
    Settings.Loader.settings_nothing layered, settings]
  rfl

namespace Sample

def fileName : Bytes := Utf8.encode "f.toml".toList

def fileText : Text :=
  ("[kafka]\nbrokers = [\"b\"]\n[publish]\ntopic = \"t\"\n[publish.mapped_properties]\n" ++
    "Source = \"filename\"\nbatch = \"id\"\n[record]\nschema = [\"a\"]\n").toList

def properties : List (Text × Text) :=
  [("Source".toList, "filename".toList), ("batch".toList, "id".toList)]

def origin : Option Text := some "f.toml".toList

def outline : Settings.Outline where
  origin := origin
  outer :=
    { before := [("kafka".toList, .table origin
        [("brokers".toList, .list origin [.scalar origin (.text ['b'])])])]
      name := "publish".toList
      after := [("record".toList, .table origin
        [("schema".toList, .list origin [.scalar origin (.text ['a'])])])] }
  inner :=
    { before := [("topic".toList, .scalar origin (.text ['t']))]
      name := "mapped_properties".toList }

def plain : Settings :=
  { kafka := { brokers := [['b']] }, publish := .ofTopic ['t'], record := { schema := [['a']] } }

def store : Files.Store Id where
  isFile path := path == fileName
  read _ := pure (Utf8.encode fileText)
  makeDirectories _ := pure ()
  write _ _ := pure ()

end Sample

theorem sample_written : Settings.layerOf (Utf8.lossy Sample.fileName) .toml
    (Utf8.encode Sample.fileText) = .ok (Sample.outline.document Sample.properties) := by
  have origin : Utf8.lossy Sample.fileName = "f.toml".toList := by decide +kernel
  have text : Settings.textOf (Utf8.encode Sample.fileText) = Sample.fileText := by
    decide +kernel
  rw [Settings.layerOf, origin, text]
  cbv

theorem sample_document :
    (Settings.Loader.standard Settings.Notation.all Sample.store).document Sample.fileName =
      pure (Sample.outline.document Sample.properties) := by
  have located : Settings.find Settings.Notation.all Sample.store Sample.fileName =
      pure (Sample.fileName, .toml) := rfl
  exact Settings.Loader.standard_document Settings.Notation.all Sample.store Sample.fileName
    Sample.fileName .toml _ _ located rfl sample_written

theorem sample_tidy : Sample.outline.Tidy where
  titled := by decide
  labelled := by decide
  undotted := by decide
  apart := by
    refine .table _ _ (by decide) ?_
    simp only [Settings.Outline.document, Settings.Slot.fill, Sample.outline,
      List.forall_mem_append, List.forall_mem_cons, List.not_mem_nil, false_implies, implies_true,
      and_true]
    refine ⟨.flat _ _ (by decide), .table _ _ (by decide) ?_, .flat _ _ (by decide)⟩
    simp only [Settings.Slot.fill, List.forall_mem_append, List.forall_mem_cons, List.not_mem_nil,
      false_implies, implies_true, and_true]
    exact ⟨.leaf _ rfl, .flat _ _ (by decide)⟩

theorem sample_otherwise : (Settings.Loader.standard Settings.Notation.all Sample.store).settings
    [Sample.outline.document []] = .ok Sample.plain :=
  rfl

theorem sample_loaded :
    (Sample.properties.map Prod.fst).Nodup ∧ ∃ s : Settings,
      (Settings.Loader.standard Settings.Notation.all Sample.store).load
        [("HOME".toList, "Source".toList)] Sample.fileName = pure s ∧
          s.Mapped Sample.plain Sample.properties :=
  ⟨by decide, properties_loaded
    (Settings.Loader.standard_layered Settings.Notation.all Sample.store)
    (Settings.Loader.standard_lowering Settings.Notation.all Sample.store)
    (Settings.Loader.standard_environment Settings.Notation.all Sample.store)
    (Settings.Loader.standard_by_name Settings.Notation.all Sample.store)
    (fun s => s.kind.standard_converts _) Sample.outline sample_tidy Sample.properties
    [("HOME".toList, "Source".toList)] Sample.fileName Sample.plain sample_document (by decide)
    sample_otherwise (by decide)⟩

theorem capital_lost : ¬ ∀ (o : Settings.Outline) (properties : List (Text × Text))
    (base : Settings) (store : Files.Store Id) (path : Bytes), o.Tidy →
      (Settings.Loader.standard Settings.Notation.all store).document path =
        pure (o.document properties) →
      (Settings.Loader.standard Settings.Notation.all store).settings [o.document []] = .ok base →
      (properties.map Prod.fst).Nodup → ∃ s : Settings,
        (Settings.Loader.standard Settings.Notation.all store).load [] path = pure s ∧
          ∀ name source, s.publish.mappedProperties[name]? = some source ↔
            (name, source) ∈ properties := by
  intro every
  obtain ⟨s, read, same⟩ := every Sample.outline Sample.properties Sample.plain Sample.store
    Sample.fileName sample_tidy sample_document sample_otherwise (by decide)
  have layered := Settings.Loader.standard_layered Settings.Notation.all Sample.store
  obtain ⟨mapped, settings, lowered⟩ := Settings.outline_read layered
    (Settings.Loader.standard_lowering Settings.Notation.all Sample.store)
    (Settings.Loader.standard_by_name Settings.Notation.all Sample.store)
    (Setting.Kind.standard_converts .entries _) Sample.outline sample_tidy Sample.properties
    Sample.plain sample_otherwise
  rw [Settings.Loader.load_document [] Sample.fileName _ sample_document] at read
  have made : (Settings.Loader.standard Settings.Notation.all Sample.store).settings
      [Sample.outline.document Sample.properties, []] = .ok s := read
  rw [Settings.Loader.settings_nothing layered, settings] at made
  cases made
  have low := (Settings.lowered_whole Sample.properties mapped lowered (by decide)).mp same
  exact absurd (low ("Source".toList, "filename".toList) List.mem_cons_self) (by decide)

end Courier
