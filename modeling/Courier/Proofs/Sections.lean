import Courier.Proofs.Loaders
import Courier.Settings.Sources

set_option autoImplicit false

namespace Courier

def Setting.Kind.read : (k : Kind) → Settings.Decoder k.Content
  | text => Settings.Decode.text
  | texts => Settings.Decode.list Settings.Decode.text
  | switch => Settings.Decode.bool
  | count32 => Settings.Decode.unsigned32
  | count64 => Settings.Decode.unsigned64
  | limit => Settings.Decode.optional Settings.Decode.unsigned64
  | signed32 => Settings.Decode.signed32
  | character => Settings.Decode.character
  | mode => Settings.Decode.quoteMode
  | entries => Settings.Decode.attributes

def Setting.Group.read : (g : Group) → Settings.Decoder g.Content
  | kafka => KafkaSettings.decode
  | publish => PublishSettings.decode
  | record => Format.decode
  | driver => DriverSettings.decode

namespace Settings

theorem read_named {α : Type} (es : Layer) (key : List Step) (place : Nat) (name : String)
    (d : Decoder α) (o : Option α) : (Fields.named es).read? key place name d = .ok o ↔
      (es.lookup name.toList).elim (o = none) fun v =>
        ∃ a, d (key ++ [.name name.toList]) v = .ok a ∧ o = some a := by
  rw [Fields.read?, Fields.field?]
  cases es.lookup name.toList with
  | none => exact ⟨fun same => (Except.ok.inj same).symm, fun same => congrArg _ same.symm⟩
  | some v =>
    dsimp only [Option.map_some, Option.elim_some]
    cases d (key ++ [.name name.toList]) v with
    | error e => simp [Functor.map, Except.map]
    | ok a => simp [Functor.map, Except.map, eq_comm]

-- What is read under a name, or stands where the name is not there.
def Comes {α : Type} (es : Layer) (key : List Step) (name : String) (d : Decoder α)
    (absent : Option α) (a : α) : Prop :=
  (es.lookup name.toList).elim absent
    (fun v => (d (key ++ [.name name.toList]) v).toOption) = some a

section

variable {α : Type} {es : Layer} {key : List Step} {name : String} {d : Decoder α} {a b : α}

theorem comes_needed (place : Nat) : Comes es key name d none a ↔
    (Fields.named es).read? key place name d = .ok (some a) := by
  rw [Comes, read_named]
  cases es.lookup name.toList with
  | none => simp
  | some v => simp [toOption_ok]

theorem comes_spared (place : Nat) : Comes es key name d (some b) a ↔
    ∃ o, (Fields.named es).read? key place name d = .ok o ∧ o.getD b = a := by
  simp only [Comes, read_named]
  cases es.lookup name.toList with
  | none => simp
  | some v => simp [toOption_ok]

end

theorem require_ok {α : Type} {fs : Fields} {part : Section} {place : Nat} {name : String}
    {o : Option α} {a : α} (required : fs.require part place name o = .ok a) : o = some a := by
  cases o with
  | none => cases required
  | some b =>
    cases required
    rfl

end Settings

def Setting.Said (s : Setting) (es : Settings.Layer) (key : List Settings.Step)
    (v : s.Content) : Prop :=
  Settings.Comes es key s.name s.kind.read s.unsaid v

namespace Settings

section

variable (origin : Option Text) (es : Layer) (key : List Step) (c : Settings)

theorem kafka_said : KafkaSettings.decode key (.table origin es) = .ok c.kafka ↔
    ∀ s : Setting, s.group = .kafka → s.Said es key (c.value s) := by
  obtain ⟨⟨⟩, p, f, d⟩ := c
  constructor
  · intro decoded
    rw [KafkaSettings.decode, Fields.ofValue, ok_bind] at decoded
    obtain ⟨brokers, first, decoded⟩ := bind_ok _ _ _ decoded
    obtain ⟨compression, second, decoded⟩ := bind_ok _ _ _ decoded
    obtain ⟨acks, third, decoded⟩ := bind_ok _ _ _ decoded
    obtain ⟨lingerMs, fourth, decoded⟩ := bind_ok _ _ _ decoded
    obtain ⟨batchSize, fifth, decoded⟩ := bind_ok _ _ _ decoded
    obtain ⟨messageTimeoutMs, sixth, decoded⟩ := bind_ok _ _ _ decoded
    obtain ⟨createTopic, seventh, decoded⟩ := bind_ok _ _ _ decoded
    obtain ⟨partitions, eighth, decoded⟩ := bind_ok _ _ _ decoded
    obtain ⟨replicationFactor, ninth, decoded⟩ := bind_ok _ _ _ decoded
    obtain ⟨_, needed, done⟩ := bind_ok _ _ _ decoded
    obtain rfl := require_ok needed
    cases done
    intro s group
    cases s with
    | brokers => exact (comes_needed 0).mpr first
    | compression => exact (comes_spared 1).mpr ⟨_, second, rfl⟩
    | acks => exact (comes_spared 2).mpr ⟨_, third, rfl⟩
    | lingerMs => exact (comes_spared 3).mpr ⟨_, fourth, rfl⟩
    | batchSize => exact (comes_spared 4).mpr ⟨_, fifth, rfl⟩
    | messageTimeoutMs => exact (comes_spared 5).mpr ⟨_, sixth, rfl⟩
    | createTopic => exact (comes_spared 6).mpr ⟨_, seventh, rfl⟩
    | partitions => exact (comes_spared 7).mpr ⟨_, eighth, rfl⟩
    | replicationFactor => exact (comes_spared 8).mpr ⟨_, ninth, rfl⟩
    | _ => cases group
  · intro said
    have first := (comes_needed 0).mp (said .brokers rfl)
    obtain ⟨compression, second, rfl⟩ := (comes_spared 1).mp (said .compression rfl)
    obtain ⟨acks, third, rfl⟩ := (comes_spared 2).mp (said .acks rfl)
    obtain ⟨lingerMs, fourth, rfl⟩ := (comes_spared 3).mp (said .lingerMs rfl)
    obtain ⟨batchSize, fifth, rfl⟩ := (comes_spared 4).mp (said .batchSize rfl)
    obtain ⟨messageTimeoutMs, sixth, rfl⟩ := (comes_spared 5).mp (said .messageTimeoutMs rfl)
    obtain ⟨createTopic, seventh, rfl⟩ := (comes_spared 6).mp (said .createTopic rfl)
    obtain ⟨partitions, eighth, rfl⟩ := (comes_spared 7).mp (said .partitions rfl)
    obtain ⟨replicationFactor, ninth, rfl⟩ := (comes_spared 8).mp (said .replicationFactor rfl)
    refine (bind_step first _).trans ?_
    refine (bind_step second _).trans ?_
    refine (bind_step third _).trans ?_
    refine (bind_step fourth _).trans ?_
    refine (bind_step fifth _).trans ?_
    refine (bind_step sixth _).trans ?_
    refine (bind_step seventh _).trans ?_
    refine (bind_step eighth _).trans ?_
    refine (bind_step ninth _).trans ?_
    rfl

theorem publish_said : PublishSettings.decode key (.table origin es) = .ok c.publish ↔
    ∀ s : Setting, s.group = .publish → s.Said es key (c.value s) := by
  obtain ⟨k, ⟨⟩, f, d⟩ := c
  constructor
  · intro decoded
    rw [PublishSettings.decode, Fields.ofValue, ok_bind] at decoded
    obtain ⟨topic, first, decoded⟩ := bind_ok _ _ _ decoded
    obtain ⟨asyncEnabled, second, decoded⟩ := bind_ok _ _ _ decoded
    obtain ⟨maxAsyncRequests, third, decoded⟩ := bind_ok _ _ _ decoded
    obtain ⟨keyFields, fourth, decoded⟩ := bind_ok _ _ _ decoded
    obtain ⟨mappedProperties, fifth, decoded⟩ := bind_ok _ _ _ decoded
    obtain ⟨_, needed, done⟩ := bind_ok _ _ _ decoded
    obtain rfl := require_ok needed
    cases done
    intro s group
    cases s with
    | topic => exact (comes_needed 0).mpr first
    | asyncEnabled => exact (comes_spared 1).mpr ⟨_, second, rfl⟩
    | maxAsyncRequests => exact (comes_spared 2).mpr ⟨_, third, rfl⟩
    | keyFields => exact (comes_spared 3).mpr ⟨_, fourth, rfl⟩
    | mappedProperties => exact (comes_spared 4).mpr ⟨_, fifth, rfl⟩
    | _ => cases group
  · intro said
    have first := (comes_needed 0).mp (said .topic rfl)
    obtain ⟨asyncEnabled, second, rfl⟩ := (comes_spared 1).mp (said .asyncEnabled rfl)
    obtain ⟨maxAsyncRequests, third, rfl⟩ := (comes_spared 2).mp (said .maxAsyncRequests rfl)
    obtain ⟨keyFields, fourth, rfl⟩ := (comes_spared 3).mp (said .keyFields rfl)
    obtain ⟨mappedProperties, fifth, rfl⟩ := (comes_spared 4).mp (said .mappedProperties rfl)
    refine (bind_step first _).trans ?_
    refine (bind_step second _).trans ?_
    refine (bind_step third _).trans ?_
    refine (bind_step fourth _).trans ?_
    refine (bind_step fifth _).trans ?_
    rfl

theorem record_said : Format.decode key (.table origin es) = .ok c.record ↔
    ∀ s : Setting, s.group = .record → s.Said es key (c.value s) := by
  obtain ⟨k, p, ⟨⟩, d⟩ := c
  constructor
  · intro decoded
    rw [Format.decode, Fields.ofValue, ok_bind] at decoded
    obtain ⟨schema, first, decoded⟩ := bind_ok _ _ _ decoded
    obtain ⟨delimiter, second, decoded⟩ := bind_ok _ _ _ decoded
    obtain ⟨trimFields, third, decoded⟩ := bind_ok _ _ _ decoded
    obtain ⟨quoteMode, fourth, decoded⟩ := bind_ok _ _ _ decoded
    obtain ⟨_, needed, done⟩ := bind_ok _ _ _ decoded
    obtain rfl := require_ok needed
    cases done
    intro s group
    cases s with
    | schema => exact (comes_needed 0).mpr first
    | delimiter => exact (comes_spared 1).mpr ⟨_, second, rfl⟩
    | trimFields => exact (comes_spared 2).mpr ⟨_, third, rfl⟩
    | quoteMode => exact (comes_spared 3).mpr ⟨_, fourth, rfl⟩
    | _ => cases group
  · intro said
    have first := (comes_needed 0).mp (said .schema rfl)
    obtain ⟨delimiter, second, rfl⟩ := (comes_spared 1).mp (said .delimiter rfl)
    obtain ⟨trimFields, third, rfl⟩ := (comes_spared 2).mp (said .trimFields rfl)
    obtain ⟨quoteMode, fourth, rfl⟩ := (comes_spared 3).mp (said .quoteMode rfl)
    refine (bind_step first _).trans ?_
    refine (bind_step second _).trans ?_
    refine (bind_step third _).trans ?_
    refine (bind_step fourth _).trans ?_
    rfl

theorem driver_said : DriverSettings.decode key (.table origin es) = .ok c.driver ↔
    ∀ s : Setting, s.group = .driver → s.Said es key (c.value s) := by
  obtain ⟨k, p, f, ⟨⟩⟩ := c
  constructor
  · intro decoded
    rw [DriverSettings.decode, Fields.ofValue, ok_bind] at decoded
    obtain ⟨pollIntervalMs, first, decoded⟩ := bind_ok _ _ _ decoded
    obtain ⟨maxCycles, second, decoded⟩ := bind_ok _ _ _ decoded
    cases decoded
    intro s group
    cases s with
    | pollIntervalMs => exact (comes_spared 0).mpr ⟨_, first, rfl⟩
    | maxCycles => exact (comes_spared 1).mpr ⟨_, second, rfl⟩
    | _ => cases group
  · intro said
    obtain ⟨pollIntervalMs, first, rfl⟩ := (comes_spared 0).mp (said .pollIntervalMs rfl)
    obtain ⟨maxCycles, second, rfl⟩ := (comes_spared 1).mp (said .maxCycles rfl)
    refine (bind_step first _).trans ?_
    refine (bind_step second _).trans ?_
    rfl

end

theorem group_said (g : Setting.Group) (key : List Step) (origin : Option Text)
    (es : Layer) (c : Settings) : g.read key (.table origin es) = .ok (c.group g) ↔
      ∀ s : Setting, s.group = g → s.Said es key (c.value s) := by
  cases g with
  | kafka => exact kafka_said origin es key c
  | publish => exact publish_said origin es key c
  | record => exact record_said origin es key c
  | driver => exact driver_said origin es key c

theorem groups_said (origin : Option Text) (es : Layer) (c : Settings) :
    decode (.table origin es) = .ok c ↔
      ∀ g : Setting.Group, Comes es [] g.name g.read g.unsaid (c.group g) := by
  obtain ⟨k, p, f, d⟩ := c
  constructor
  · intro decoded
    rw [decode, Fields.ofValue, ok_bind] at decoded
    obtain ⟨kafka, first, decoded⟩ := bind_ok _ _ _ decoded
    obtain ⟨publish, second, decoded⟩ := bind_ok _ _ _ decoded
    obtain ⟨record, third, decoded⟩ := bind_ok _ _ _ decoded
    obtain ⟨driver, fourth, decoded⟩ := bind_ok _ _ _ decoded
    obtain ⟨_, needed, rest⟩ := bind_ok _ _ _ decoded
    obtain ⟨_, wanted, last⟩ := bind_ok _ _ _ rest
    obtain ⟨_, asked, done⟩ := bind_ok _ _ _ last
    obtain rfl := require_ok needed
    obtain rfl := require_ok wanted
    obtain rfl := require_ok asked
    cases done
    intro g
    cases g with
    | kafka => exact (comes_needed 0).mpr first
    | publish => exact (comes_needed 1).mpr second
    | record => exact (comes_needed 2).mpr third
    | driver => exact (comes_spared 3).mpr ⟨_, fourth, rfl⟩
  · intro comes
    have first := (comes_needed 0).mp (comes .kafka)
    have second := (comes_needed 1).mp (comes .publish)
    have third := (comes_needed 2).mp (comes .record)
    obtain ⟨driver, fourth, rfl⟩ := (comes_spared 3).mp (comes .driver)
    refine (bind_step first _).trans ?_
    refine (bind_step second _).trans ?_
    refine (bind_step third _).trans ?_
    exact bind_step fourth _

end Settings

def Setting.Group.standard (g : Group) (v : Settings.Value) : Option g.Content :=
  (g.read [.name g.name.toList] v).toOption

def Setting.standard (s : Setting) (v : Settings.Value) : Option s.Content :=
  (s.kind.read [.name s.group.name.toList, .name s.name.toList] v).toOption

theorem Settings.Loader.standard_by_name {m : Type → Type} [Monad m]
    (known : List Settings.Notation) (store : Files.Store m) :
    ByName (standard known store) Setting.Group.standard Setting.standard where
  sections v c table := by
    cases v with
    | scalar _ _ => cases table
    | list _ _ => cases table
    | table origin es =>
      refine Iff.trans ⟨unmapped _ _ _, fun decoded => ?_⟩ (groups_said origin es c)
      exact congrArg (Except.mapError Misfit.message) decoded
  fields g v c table := by
    cases v with
    | scalar _ _ => cases table
    | list _ _ => cases table
    | table origin es =>
      refine (toOption_ok _ _).trans ((group_said g _ origin es c).trans ?_)
      refine forall₂_congr fun s same => ?_
      subst same
      rfl

end Courier
