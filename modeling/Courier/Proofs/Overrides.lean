import Courier.Proofs.Mappings

set_option autoImplicit false

namespace Courier

namespace Settings

theorem nameable_checked (name : Text) (filled : name ≠ [])
    (checked : (name.all fun c => c.isAlphanum || c == '_' || c == '-') = true)
    (low : Text.lower name = name) : Nameable name := by
  refine ⟨filled, fun c member => ?_, low⟩
  have plain := List.all_eq_true.mp checked c member
  simpa only [Bool.or_eq_true, beq_iff_eq, or_assoc] using plain

end Settings

namespace Setting

theorem group_nameable (g : Group) : Settings.Nameable g.name.toList := by
  cases g <;> exact Settings.nameable_checked _ (by decide) (by decide) (by decide)

theorem name_nameable (s : Setting) : Settings.Nameable s.name.toList := by
  cases s <;> exact Settings.nameable_checked _ (by decide) (by decide) (by decide)

theorem path_nameable (s : Setting) : ∀ name ∈ s.path, Settings.Nameable name := by
  rw [path, List.forall_mem_cons, List.forall_mem_singleton]
  exact ⟨group_nameable s.group, name_nameable s⟩

theorem path_replaced (s : Setting) :
    Text.replace Settings.naming.separator ['.'] (Settings.naming.separator.intercalate s.path) =
      Settings.dots s.path := by
  cases s <;> rfl

namespace Kind

theorem numeric_held (t : Text) (numeric : Decimal.Numeric t) : Settings.Held t := by
  intro member
  exact absurd (Decimal.numeric_early _ (numeric.2 _ member)).1 (by decide)

section

variable (origin : Text → Option Text)

def Reached (k : Kind) (d : Settings.Value → Option k.Content) (v : k.Content) : Prop :=
  ∃ t, Settings.Held t ∧ d (.scalar (origin t) (.text t)) = some v

theorem numeral_reached {α : Type} {fits : α → Prop} {write : α → Text}
    {d : Settings.Value → Option α} (numeral : Numeral fits write d) (a : α)
    (numeric : fits a → Decimal.Numeric (write a)) :
    (∃ t, Settings.Held t ∧ d (.scalar (origin t) (.text t)) = some a) ↔ fits a := by
  constructor
  · rintro ⟨t, _, read⟩
    exact numeral.within _ t a read
  · exact fun room => ⟨write a, numeric_held _ (numeric room), numeral.written _ a room⟩

theorem limit_reached (d : Settings.Value → Option (Option Nat)) (converts : limit.Converts d)
    (n : Option Nat) : limit.Reached origin d n ↔ limit.Fits n ∧ limit.Spoken n := by
  refine (numeral_reached origin converts n ?_).trans ⟨?_, ?_⟩
  · rintro ⟨m, _, rfl⟩
    exact Decimal.write_numeric m
  · rintro ⟨m, room, rfl⟩
    refine ⟨?_, Option.some_ne_none m⟩
    rintro _ ⟨⟩
    exact room
  · rintro ⟨room, there⟩
    obtain ⟨m, rfl⟩ := Option.ne_none_iff_exists'.mp there
    exact ⟨m, room m rfl, rfl⟩

theorem character_reached (d : Settings.Value → Option Char) (converts : character.Converts d)
    (c : Char) : character.Reached origin d c ↔ c ≠ '\x00' := by
  constructor
  · rintro ⟨t, held, read⟩ rfl
    rw [(converts _ t _).mp read] at held
    exact held List.mem_cons_self
  · intro plain
    refine ⟨[c], ?_, (converts _ _ _).mpr rfl⟩
    intro member
    exact plain (List.mem_singleton.mp member).symm

theorem switch_reached (d : Settings.Value → Option Bool) (converts : switch.Converts d)
    (b : Bool) : switch.Reached origin d b := by
  cases b with
  | true => exact ⟨"true".toList, by decide, (converts _).1⟩
  | false => exact ⟨"false".toList, by decide, (converts _).2⟩

theorem mode_reached (d : Settings.Value → Option QuoteMode) (converts : mode.Converts d)
    (q : QuoteMode) : mode.Reached origin d q := by
  cases q with
  | all => exact ⟨"all".toList, by decide, (converts _).1⟩
  | minimal => exact ⟨"minimal".toList, by decide, (converts _).2.1⟩
  | never => exact ⟨"never".toList, by decide, (converts _).2.2⟩

theorem listed_refused (k : Kind) (d : Settings.Value → Option k.Content) (converts : k.Converts d)
    (listed : k = texts ∨ k = entries) (place : Option Text) (t : Text) :
    d (.scalar place (.text t)) = none := by
  rcases listed with rfl | rfl
  · exact converts place t
  · refine Option.eq_none_iff_forall_ne_some.mpr fun m read => ?_
    cases Mapping.table converts _ m read

theorem reached_iff (k : Kind) (d : Settings.Value → Option k.Content) (converts : k.Converts d)
    (v : k.Content) : k.Reached origin d v ↔ k.Fits v ∧ k.Spoken v := by
  have nothing : k = texts ∨ k = entries → ¬ k.Reached origin d v := by
    rintro listed ⟨t, _, read⟩
    rw [listed_refused k d converts listed] at read
    cases read
  cases k with
  | text =>
    refine ⟨?_, fun ⟨_, held⟩ => ⟨v, held, converts _ v⟩⟩
    rintro ⟨t, held, read⟩
    cases (converts (origin t) t).symm.trans read
    exact ⟨trivial, held⟩
  | texts => exact ⟨fun reached => absurd reached (nothing (.inl rfl)), fun never => never.2.elim⟩
  | entries => exact ⟨fun reached => absurd reached (nothing (.inr rfl)), fun never => never.2.elim⟩
  | switch => exact ⟨fun _ => ⟨trivial, trivial⟩, fun _ => switch_reached origin d converts v⟩
  | mode => exact ⟨fun _ => ⟨trivial, trivial⟩, fun _ => mode_reached origin d converts v⟩
  | character => exact (character_reached origin d converts v).trans (iff_of_eq (true_and _).symm)
  | count32 =>
    have reached := numeral_reached origin converts v fun _ => Decimal.write_numeric v
    exact reached.trans (iff_of_eq (and_true _).symm)
  | count64 =>
    have reached := numeral_reached origin converts v fun _ => Decimal.write_numeric v
    exact reached.trans (iff_of_eq (and_true _).symm)
  | signed32 =>
    have reached := numeral_reached origin converts v fun _ => Decimal.write_int_numeric v
    exact reached.trans (iff_of_eq (and_true _).symm)
  | limit => exact limit_reached origin d converts v

end

end Kind

end Setting

namespace Settings

def variableName (path : List Text) : Text :=
  naming.opening ++ naming.separator.intercalate path

def withProperty (c : Settings) (name source : Text) : Settings :=
  { c with publish :=
    { c.publish with mappedProperties := c.publish.mappedProperties.insert name source } }

def propertyPath (name : Text) : List Text := Setting.mappedProperties.path ++ [name]

theorem replace_absent (new : Text) (t : Text) (undoubled : ¬ ['_', '_'] <:+: t) :
    Text.replaceFrom ['_', '_'] new 0 t = t := by
  induction t with
  | nil => rfl
  | cons c t ih =>
    have apart : ['_', '_'].isPrefixOf (c :: t) = false := by
      rw [Bool.eq_false_iff, ne_eq, List.isPrefixOf_iff_prefix]
      exact fun opening => undoubled opening.isInfix
    rw [Text.replaceFrom, apart, if_neg Bool.false_ne_true,
      ih fun inside => undoubled (inside.trans (List.suffix_cons c t).isInfix)]

theorem property_replaced (name : Text) (undoubled : ¬ ['_', '_'] <:+: name) :
    Text.replace naming.separator ['.'] (naming.separator.intercalate (propertyPath name)) =
      dots (propertyPath name) := by
  have joined : ∀ sep : Text, sep.intercalate (propertyPath name) =
      "publish".toList ++ sep ++ ("mapped_properties".toList ++ sep ++ name) := by
    intro sep
    change sep.intercalate ["publish".toList, "mapped_properties".toList, name] = _
    rw [List.intercalate_cons_cons, List.intercalate_cons_cons, List.intercalate_singleton]
  have opened : Text.replace naming.separator ['.']
      (naming.separator.intercalate (propertyPath name)) =
      "publish.mapped_properties.".toList ++ Text.replaceFrom ['_', '_'] ['.'] 0 name := by
    rw [joined]
    rfl
  rw [opened, replace_absent ['.'] name undoubled, dots, joined]
  rfl

theorem sets_alike (s : Setting) (more : List Text) (x before after : Value)
    (left : after.isTable = true) (right : before.isTable = true)
    (sets : Value.Sets (s.path ++ more) x before after) : AlikeBut s after before := by
  have group : ∀ v : Value, ∀ g : Setting.Group, v.at? [g.name.toList] = v.entry? g.name.toList :=
    fun v g => Value.at_single _ v
  refine ⟨left, right, ?_, ?_, ?_⟩
  · intro y found
    obtain ⟨z, there, table⟩ := sets.above [s.group.name.toList] ⟨s.name.toList :: more, rfl⟩
      (by simp [Setting.path])
    rw [group, found] at there
    cases there
    exact table
  · intro g other
    rw [← group, ← group]
    have apart := Setting.Group.name_apart g s.group other
    refine sets.apart _ ?_ ?_
    · rintro ⟨_, same⟩
      exact apart (List.cons.inj same).1
    · rintro ⟨_, same⟩
      exact apart (List.cons.inj same).1.symm
  · intro g same other
    have apart := Setting.name_apart s g other
    refine sets.apart _ ?_ ?_
    · rintro ⟨_, alike⟩
      exact apart (List.cons.inj (List.cons.inj alike).2).1
    · rintro ⟨_, alike⟩
      exact apart (List.cons.inj (List.cons.inj alike).2).1.symm

structure Single (spelled : Text) (before after : List (Text × Text)) (path : List Text) :
    Prop where
  named : Text.lower spelled = variableName path
  silent : ∀ x ∈ before ++ after, naming.covers x.1 = false

variable {m : Type → Type} {loader : Loader m}

theorem single_sets (layered : Layered loader) (environment : FromEnvironment loader)
    (document : Layer) {spelled : Text} {before after : List (Text × Text)} (path : List Text)
    (single : Single spelled before after path) (filled : path ≠ [])
    (each : ∀ name ∈ path, Nameable name) (replaced : Text.replace naming.separator ['.']
      (naming.separator.intercalate path) = dots path) (t : Text) :
    ∃ origin, Value.Sets path (.scalar origin (.text t)) (loader.build [document])
      (loader.build [document, loader.environment naming (before ++ (spelled, t) :: after)]) := by
  obtain ⟨origin, alone⟩ := variables_single environment naming before after spelled t _
    single.named single.silent
  refine ⟨origin, ?_⟩
  rw [alone, replaced]
  exact layered.sets [document] path origin (.text t) filled each

-- What comes of a setting of a file under the variable of that setting, for each text in it.
structure Overridden (s : Setting) (v : s.Content) (c : Settings) (kept : Prop)
    (load : Text → Except LoadFault Settings) : Prop where
  reached : (∃ t, Held t ∧ load t = .ok (c.change s v)) ↔
    s.Legal v c ∧ s.kind.Spoken v ∧ kept
  framed : kept → ∀ t other, load t = .ok other → other = c.change s (other.value s)
  refused : s.kind = .texts ∨ s.kind = .entries → ∀ t, ∃ note, load t = .error (.refused note)

theorem settings_refused (layers : List Layer)
    (refused : ∀ c, loader.decode (loader.build layers) ≠ .ok c) :
    ∃ note, loader.settings layers = .error (.refused note) := by
  rw [Loader.settings]
  cases decoded : loader.decode (loader.build layers) with
  | error note => exact ⟨note, rfl⟩
  | ok c => exact absurd decoded (refused c)

section

variable {part : (g : Setting.Group) → Value → Option g.Content}
  {read : (s : Setting) → Value → Option s.Content} (byName : ByName loader part read)
  (converts : ∀ s : Setting, s.kind.Converts (read s))

include byName converts

theorem setting_overridden (layered : Layered loader) (document : Layer) (c : Settings)
    (s : Setting) (v : s.Content) (layers : Text → List Layer)
    (loaded : loader.settings [document] = .ok c) (origin : Text → Option Text)
    (sets : ∀ t, Value.Sets s.path (.scalar (origin t) (.text t)) (loader.build [document])
      (loader.build (layers t))) :
    Overridden s v c ((loader.build [document]).Kept s c) fun t =>
      loader.settings (layers t) := by
  obtain ⟨decoded, _⟩ := (Loader.settings_iff _ c).mp loaded
  have alike : ∀ t, AlikeBut s (loader.build (layers t)) (loader.build [document]) := fun t =>
    sets_alike s [] _ _ _ (layered.table _) (layered.table _)
      (by rw [List.append_nil]; exact sets t)
  have set : ∀ t a, loader.decode (loader.build (layers t)) = .ok (c.change s a) ↔
      read s (.scalar (origin t) (.text t)) = some a ∧ (loader.build [document]).Kept s c := by
    intro t a
    rw [decode_change byName _ _ s a c (alike t) decoded, (sets t).here]
    rfl
  have said : ∀ t other, loader.decode (loader.build (layers t)) = .ok other →
      read s (.scalar (origin t) (.text t)) = some (other.value s) := by
    intro t other made
    have own := decode_said byName _ s other (layered.table _) (alike t).named made
    rwa [(sets t).here] at own
  have reached := Setting.Kind.reached_iff origin s.kind (read s) (converts s) v
  refine ⟨⟨?_, ?_⟩, ?_, ?_⟩
  · rintro ⟨t, held, made⟩
    obtain ⟨settings, valid⟩ := (Loader.settings_iff _ _).mp made
    obtain ⟨text, kept⟩ := (set t v).mp settings
    obtain ⟨fits, spoken⟩ := reached.mp ⟨t, held, text⟩
    exact ⟨⟨fits, valid⟩, spoken, kept⟩
  · rintro ⟨⟨fits, valid⟩, spoken, kept⟩
    obtain ⟨t, held, text⟩ := reached.mpr ⟨fits, spoken⟩
    exact ⟨t, held, (Loader.settings_iff _ _).mpr ⟨(set t v).mpr ⟨text, kept⟩, valid⟩⟩
  · intro kept t other made
    obtain ⟨settings, _⟩ := (Loader.settings_iff _ _).mp made
    exact Except.ok.inj (settings.symm.trans ((set t _).mpr ⟨said t other settings, kept⟩))
  · intro listed t
    refine settings_refused (layers t) fun other made => ?_
    have own := said t other made
    rw [Setting.Kind.listed_refused s.kind (read s) (converts s) listed] at own
    cases own

omit byName converts in
theorem mapping_set {read : Value → Option Attributes} (mapping : Setting.Kind.Mapping read)
    (old : Option Value) (x : Value) (origin : Option Text) (name t : Text) (m : Attributes)
    (before : ∀ y, old = some y → y.Distinct) (distinct : x.Distinct) (table : x.isTable = true)
    (said : old.elim (some ∅) read = some m)
    (here : x.entry? name = some (.scalar origin (.text t)))
    (beside : ∀ n, n ≠ name → x.entry? n = old.bind (Value.entry? n)) :
    read x = some (m.insert name t) := by
  obtain ⟨text, plain, each⟩ := mapping.each
  have earlier : ∀ n, (old.bind (Value.entry? n)).map text = m[n]?.map some := by
    intro n
    cases old with
    | none =>
      cases said
      rw [Std.ExtTreeMap.getElem?_empty]
      rfl
    | some y =>
      have whole := mapping.table y m said
      have own := before y rfl
      cases own with
      | scalar _ _ => cases whole
      | list _ _ => cases whole
      | table origin es nodup _ => exact (each origin es m nodup).mp said n
  cases distinct with
  | scalar _ _ => cases table
  | list _ _ => cases table
  | table place es nodup _ =>
    refine (each place es _ nodup).mpr fun n => ?_
    rw [Std.ExtTreeMap.getElem?_insert]
    by_cases same : n = name
    · subst same
      rw [if_pos Std.compare_self, Option.map_some, ← plain origin t]
      exact congrArg (Option.map text) here
    · rw [if_neg (mt Std.compare_eq_iff_eq.mp (Ne.symm same)), ← earlier n, ← beside n same]
      rfl

theorem property_said (layered : Layered loader) (layers more : List Layer) (c : Settings)
    (name t : Text) (origin : Option Text) (decoded : loader.decode (loader.build layers) = .ok c)
    (named : (loader.build layers).Named .publish)
    (sets : Value.Sets (propertyPath name) (.scalar origin (.text t)) (loader.build layers)
      (loader.build more)) :
    ((loader.build more).at? Setting.mappedProperties.path).elim Setting.mappedProperties.unsaid
      (read .mappedProperties) = some (c.publish.mappedProperties.insert name t) := by
  have before := decode_said byName _ .mappedProperties c (layered.table layers) named decoded
  obtain ⟨x, there, table⟩ := sets.above Setting.mappedProperties.path (List.prefix_append _ _)
    (by simp [propertyPath])
  rw [there]
  refine mapping_set (converts .mappedProperties)
    ((loader.build layers).at? Setting.mappedProperties.path) x origin name t _
    (fun y found => Value.distinct_at _ _ y (layered.distinct _) found)
    (Value.distinct_at _ _ x (layered.distinct _) there) table before ?_ fun n other => ?_
  · have here := sets.here
    rwa [propertyPath, Value.at_append, there] at here
  · have beside := sets.apart (Setting.mappedProperties.path ++ [n]) ?_ ?_
    · rwa [Value.at_append, Value.at_append, there] at beside
    · intro inside
      rw [propertyPath, List.prefix_append_right_inj] at inside
      exact other (List.cons_prefix_cons.mp inside).1
    · intro inside
      rw [propertyPath, List.prefix_append_right_inj] at inside
      exact other (List.cons_prefix_cons.mp inside).1.symm

theorem property_overridden (layered : Layered loader) (document : Layer) (c : Settings)
    (name t : Text) (layers : List Layer) (loaded : loader.settings [document] = .ok c)
    (origin : Option Text)
    (sets : Value.Sets (propertyPath name) (.scalar origin (.text t)) (loader.build [document])
      (loader.build layers)) :
    loader.settings layers = .ok (c.withProperty name t) ↔
      (loader.build [document]).Named .publish := by
  obtain ⟨decoded, valid⟩ := (Loader.settings_iff _ c).mp loaded
  have alike := sets_alike .mappedProperties [name] _ _ _ (layered.table layers)
    (layered.table [document]) sets
  constructor
  · intro made
    by_contra unnamed
    -- The topic has to be said, and it is not said any more.
    have topic := decode_said byName _ .topic _ alike.left alike.named
      ((Loader.settings_iff _ _).mp made).1
    rw [alike.fields .topic rfl (by decide), Value.unnamed_at _ .topic unnamed] at topic
    cases topic
  · intro named
    have said := property_said byName converts layered [document] layers c name t origin decoded
      named sets
    refine (Loader.settings_iff _ _).mpr ⟨?_, valid⟩
    exact (decode_change byName _ _ .mappedProperties (c.publish.mappedProperties.insert name t) c
      alike decoded).mpr ⟨said, .inl named⟩

end

/-- A variable overrides its setting exactly where a text stands for the value, and changes no
other. -/
theorem settings_overridden [Monad m] [LawfulMonad m]
    {part : (g : Setting.Group) → Value → Option g.Content}
    {read : (s : Setting) → Value → Option s.Content} (layered : Layered loader)
    (environment : FromEnvironment loader) (byName : ByName loader part read)
    (converts : ∀ s : Setting, s.kind.Converts (read s)) (path : Bytes) (document : Layer)
    (c : Settings) (before after : List (Text × Text))
    (found : loader.document path = pure document) (loaded : loader.settings [document] = .ok c)
    (silent : ∀ x ∈ before ++ after, naming.covers x.1 = false) :
    (∀ env, loader.load env path =
      ExceptT.mk (pure (loader.settings [document, loader.environment naming env]))) ∧
    (∀ (s : Setting) (v : s.Content) (spelled : Text), Text.lower spelled = variableName s.path →
      Overridden s v c ((loader.build [document]).Kept s c) fun t =>
        loader.settings [document, loader.environment naming (before ++ (spelled, t) :: after)]) ∧
    ∀ name spelled t : Text, Nameable name → ¬ ['_', '_'] <:+: name →
      Text.lower spelled = variableName (propertyPath name) →
        (loader.settings [document, loader.environment naming (before ++ (spelled, t) :: after)] =
          .ok (c.withProperty name t) ↔ (loader.build [document]).Named .publish) := by
  refine ⟨fun env => Loader.load_document env path document found, ?_, ?_⟩
  · intro s v spelled named
    have sets := single_sets layered environment document s.path ⟨named, silent⟩
      (List.cons_ne_nil _ _) (Setting.path_nameable s) (Setting.path_replaced s)
    exact setting_overridden byName converts layered document c s v _ loaded
      (fun t => (sets t).choose) fun t => (sets t).choose_spec
  · intro name spelled t nameable undoubled named
    have each : ∀ n ∈ propertyPath name, Nameable n := by
      intro n member
      rcases List.mem_append.mp member with front | last
      · exact Setting.path_nameable .mappedProperties n front
      · rwa [List.mem_singleton.mp last]
    obtain ⟨origin, sets⟩ := single_sets layered environment document (propertyPath name)
      ⟨named, silent⟩ (by simp [propertyPath]) each (property_replaced name undoubled) t
    exact property_overridden byName converts layered document c name t _ loaded origin
      sets

end Settings

namespace Sample

def shortText : Text :=
  "[kafka]\nbrokers = [\"b\"]\n[publish]\ntopic = \"t\"\n[record]\nschema = [\"a\"]\n".toList

def short : Settings.Layer :=
  [("kafka".toList, .table origin
      [("brokers".toList, .list origin [.scalar origin (.text ['b'])])]),
    ("publish".toList, .table origin [("topic".toList, .scalar origin (.text ['t']))]),
    ("record".toList, .table origin
      [("schema".toList, .list origin [.scalar origin (.text ['a'])])])]

def shortStore : Files.Store Id := { store with read := fun _ => pure (Utf8.encode shortText) }

def loader : Settings.Loader Id := .standard Settings.Notation.all shortStore

end Sample

theorem short_written : Settings.layerOf (Utf8.lossy Sample.fileName) .toml
    (Utf8.encode Sample.shortText) = .ok Sample.short := by
  have origin : Utf8.lossy Sample.fileName = "f.toml".toList := by decide +kernel
  have text : Settings.textOf (Utf8.encode Sample.shortText) = Sample.shortText := by
    decide +kernel
  rw [Settings.layerOf, origin, text]
  cbv

theorem short_document : Sample.loader.document Sample.fileName = pure Sample.short := by
  have located : Settings.find Settings.Notation.all Sample.shortStore Sample.fileName =
      pure (Sample.fileName, .toml) := rfl
  exact Settings.Loader.standard_document Settings.Notation.all Sample.shortStore Sample.fileName
    Sample.fileName .toml _ _ located rfl short_written

theorem short_loaded : Sample.loader.settings [Sample.short] = .ok Sample.plain :=
  rfl

theorem short_named (g : Setting.Group) : (Sample.loader.build [Sample.short]).Named g := by
  intro x found
  cases g <;> cases found <;> rfl

theorem sample_overridden :
    (∃ t, Sample.loader.settings [Sample.short, Sample.loader.environment Settings.naming
      [("HOME".toList, "x".toList), ("RECORD_PUBLISH_KAFKA__LINGER_MS".toList, t)]] =
        .ok (Sample.plain.change .lingerMs (40 : Nat))) ∧
    Sample.loader.settings [Sample.short, Sample.loader.environment Settings.naming
      [("HOME".toList, "x".toList),
        ("RECORD_PUBLISH_PUBLISH__MAPPED_PROPERTIES__SOURCE".toList, "filename".toList)]] =
          .ok (Sample.plain.withProperty "source".toList "filename".toList) := by
  obtain ⟨_, settings, properties⟩ := Settings.settings_overridden
    (Settings.Loader.standard_layered Settings.Notation.all Sample.shortStore)
    (Settings.Loader.standard_environment Settings.Notation.all Sample.shortStore)
    (Settings.Loader.standard_by_name Settings.Notation.all Sample.shortStore)
    (fun s => s.kind.standard_converts _) Sample.fileName Sample.short Sample.plain
    [("HOME".toList, "x".toList)] [] short_document short_loaded (by decide)
  constructor
  · obtain ⟨t, _, read⟩ := (settings .lingerMs (40 : Nat) "RECORD_PUBLISH_KAFKA__LINGER_MS".toList
      (by decide)).reached.mpr
      ⟨⟨(by decide : 40 ≤ 0xFFFFFFFF), rfl⟩, trivial, .inl (short_named .kafka)⟩
    exact ⟨t, read⟩
  · exact (properties "source".toList "RECORD_PUBLISH_PUBLISH__MAPPED_PROPERTIES__SOURCE".toList
      "filename".toList (Settings.nameable_checked _ (by decide) (by decide) (by decide))
      (by decide) (by decide)).mpr (short_named .publish)

theorem list_not_overridden : ¬ ∀ (store : Files.Store Id) (path : Bytes)
    (document : Settings.Layer) (c : Settings),
      (Settings.Loader.standard Settings.Notation.all store).document path =
        pure document →
      (Settings.Loader.standard Settings.Notation.all store).settings [document] = .ok c →
      ∀ (s : Setting) (v : s.Content), s.Legal v c → ∀ spelled : Text,
        Text.lower spelled = Settings.variableName s.path →
          ∃ t, (Settings.Loader.standard Settings.Notation.all store).load [(spelled, t)] path =
            pure (c.change s v) := by
  intro every
  obtain ⟨t, read⟩ := every Sample.shortStore Sample.fileName Sample.short Sample.plain
    short_document short_loaded .brokers ["other:9092".toList] ⟨trivial, rfl⟩
    "RECORD_PUBLISH_KAFKA__BROKERS".toList (by decide)
  have layered := Settings.Loader.standard_layered Settings.Notation.all Sample.shortStore
  have single : Settings.Single "RECORD_PUBLISH_KAFKA__BROKERS".toList [] []
    Setting.brokers.path := ⟨by decide, by decide⟩
  have sets := Settings.single_sets layered
    (Settings.Loader.standard_environment Settings.Notation.all Sample.shortStore) Sample.short
    Setting.brokers.path single (List.cons_ne_nil _ _) (Setting.path_nameable .brokers)
    (Setting.path_replaced .brokers)
  have overridden := Settings.setting_overridden
    (Settings.Loader.standard_by_name Settings.Notation.all Sample.shortStore)
    (fun s => s.kind.standard_converts _) layered Sample.short Sample.plain .brokers
    ["other:9092".toList] _ short_loaded (fun t => (sets t).choose)
    fun t => (sets t).choose_spec
  obtain ⟨note, refused⟩ := overridden.refused (.inl rfl) t
  have loaded := Settings.Loader.load_document
    [("RECORD_PUBLISH_KAFKA__BROKERS".toList, t)] Sample.fileName _ short_document
  cases refused.symm.trans (loaded.symm.trans read)

end Courier
