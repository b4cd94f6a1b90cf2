import Courier.Settings

set_option autoImplicit false

namespace Courier

-- A variable of the environment holds any text without a null character.
def Settings.Held (t : Text) : Prop := '\x00' ∉ t

instance (t : Text) : Decidable (Settings.Held t) := inferInstanceAs (Decidable ('\x00' ∉ t))

namespace Setting

inductive Kind where
  | text
  | texts
  | switch
  | count32
  | count64
  | limit
  | signed32
  | character
  | mode
  | entries

namespace Kind

abbrev Content : Kind → Type
  | text => Text
  | texts => List Text
  | switch => Bool
  | count32 => Nat
  | count64 => Nat
  | limit => Option Nat
  | signed32 => Int
  | character => Char
  | mode => QuoteMode
  | entries => Attributes

def Fits : (k : Kind) → k.Content → Prop
  | count32, n => n ≤ 0xFFFFFFFF
  | count64, n => n ≤ Decimal.max64
  | limit, n => ∀ m, n = some m → m ≤ Decimal.max64
  | signed32, i => -0x80000000 ≤ i ∧ i < 0x80000000
  | _, _ => True

-- What a text in a variable can stand for.
def Spoken : (k : Kind) → k.Content → Prop
  | text, t => Settings.Held t
  | character, c => c ≠ '\x00'
  | limit, n => n ≠ none
  | texts, _ => False
  | entries, _ => False
  | _, _ => True

end Kind

inductive Group where
  | kafka
  | publish
  | record
  | driver
deriving DecidableEq

namespace Group

def name : Group → String
  | kafka => "kafka"
  | publish => "publish"
  | record => "record"
  | driver => "driver"

abbrev Content : Group → Type
  | kafka => KafkaSettings
  | publish => PublishSettings
  | record => Format
  | driver => DriverSettings

def unsaid : (g : Group) → Option g.Content
  | kafka | publish | record => none
  | driver => some {}

end Group

end Setting

inductive Setting where
  | brokers
  | compression
  | acks
  | lingerMs
  | batchSize
  | messageTimeoutMs
  | createTopic
  | partitions
  | replicationFactor
  | topic
  | asyncEnabled
  | maxAsyncRequests
  | keyFields
  | mappedProperties
  | schema
  | delimiter
  | trimFields
  | quoteMode
  | pollIntervalMs
  | maxCycles
deriving DecidableEq

namespace Setting

def group : Setting → Group
  | brokers | compression | acks | lingerMs | batchSize | messageTimeoutMs | createTopic
  | partitions | replicationFactor => .kafka
  | topic | asyncEnabled | maxAsyncRequests | keyFields | mappedProperties => .publish
  | schema | delimiter | trimFields | quoteMode => .record
  | pollIntervalMs | maxCycles => .driver

def name : Setting → String
  | brokers => "brokers"
  | compression => "compression"
  | acks => "acks"
  | lingerMs => "linger_ms"
  | batchSize => "batch_size"
  | messageTimeoutMs => "message_timeout_ms"
  | createTopic => "create_topic"
  | partitions => "partitions"
  | replicationFactor => "replication_factor"
  | topic => "topic"
  | asyncEnabled => "async_enabled"
  | maxAsyncRequests => "max_async_requests"
  | keyFields => "key_fields"
  | mappedProperties => "mapped_properties"
  | schema => "schema"
  | delimiter => "delimiter"
  | trimFields => "trim_fields"
  | quoteMode => "quote_mode"
  | pollIntervalMs => "poll_interval_ms"
  | maxCycles => "max_cycles"

def kind : Setting → Kind
  | brokers | keyFields | schema => .texts
  | compression | acks | topic => .text
  | createTopic | asyncEnabled | trimFields => .switch
  | lingerMs => .count32
  | batchSize | messageTimeoutMs | pollIntervalMs => .count64
  | maxAsyncRequests | maxCycles => .limit
  | partitions | replicationFactor => .signed32
  | delimiter => .character
  | quoteMode => .mode
  | mappedProperties => .entries

abbrev Content (s : Setting) : Type := s.kind.Content

end Setting

namespace Settings

def group (c : Settings) : (g : Setting.Group) → g.Content
  | .kafka => c.kafka
  | .publish => c.publish
  | .record => c.record
  | .driver => c.driver

def value (c : Settings) : (s : Setting) → s.Content
  | .brokers => c.kafka.brokers
  | .compression => c.kafka.compression
  | .acks => c.kafka.acks
  | .lingerMs => c.kafka.lingerMs
  | .batchSize => c.kafka.batchSize
  | .messageTimeoutMs => c.kafka.messageTimeoutMs
  | .createTopic => c.kafka.createTopic
  | .partitions => c.kafka.partitions
  | .replicationFactor => c.kafka.replicationFactor
  | .topic => c.publish.topic
  | .asyncEnabled => c.publish.asyncEnabled
  | .maxAsyncRequests => c.publish.maxAsyncRequests
  | .keyFields => c.publish.keyFields
  | .mappedProperties => c.publish.mappedProperties
  | .schema => c.record.schema
  | .delimiter => c.record.delimiter
  | .trimFields => c.record.trimFields
  | .quoteMode => c.record.quoteMode
  | .pollIntervalMs => c.driver.pollIntervalMs
  | .maxCycles => c.driver.maxCycles

def change (c : Settings) : (s : Setting) → s.Content → Settings
  | .brokers, v => { c with kafka := { c.kafka with brokers := v } }
  | .compression, v => { c with kafka := { c.kafka with compression := v } }
  | .acks, v => { c with kafka := { c.kafka with acks := v } }
  | .lingerMs, v => { c with kafka := { c.kafka with lingerMs := v } }
  | .batchSize, v => { c with kafka := { c.kafka with batchSize := v } }
  | .messageTimeoutMs, v => { c with kafka := { c.kafka with messageTimeoutMs := v } }
  | .createTopic, v => { c with kafka := { c.kafka with createTopic := v } }
  | .partitions, v => { c with kafka := { c.kafka with partitions := v } }
  | .replicationFactor, v => { c with kafka := { c.kafka with replicationFactor := v } }
  | .topic, v => { c with publish := { c.publish with topic := v } }
  | .asyncEnabled, v => { c with publish := { c.publish with asyncEnabled := v } }
  | .maxAsyncRequests, v => { c with publish := { c.publish with maxAsyncRequests := v } }
  | .keyFields, v => { c with publish := { c.publish with keyFields := v } }
  | .mappedProperties, v => { c with publish := { c.publish with mappedProperties := v } }
  | .schema, v => { c with record := { c.record with schema := v } }
  | .delimiter, v => { c with record := { c.record with delimiter := v } }
  | .trimFields, v => { c with record := { c.record with trimFields := v } }
  | .quoteMode, v => { c with record := { c.record with quoteMode := v } }
  | .pollIntervalMs, v => { c with driver := { c.driver with pollIntervalMs := v } }
  | .maxCycles, v => { c with driver := { c.driver with maxCycles := v } }

def bare : Settings :=
  { kafka := { brokers := [] }, publish := .ofTopic [], record := { schema := [] } }

end Settings

namespace Setting

def unsaid (s : Setting) : Option s.Content :=
  match s with
  | brokers | topic | schema => none
  | s => some (Settings.bare.value s)

def path (s : Setting) : List Text := [s.group.name.toList, s.name.toList]

theorem name_apart (s g : Setting) (other : g ≠ s) : g.name.toList ≠ s.name.toList := by
  cases s <;> cases g <;> first | exact absurd rfl other | decide

theorem Group.name_apart (g h : Group) (other : g ≠ h) : g.name.toList ≠ h.name.toList := by
  cases g <;> cases h <;> first | exact absurd rfl other | decide

end Setting

namespace Settings

section

variable (c : Settings) (s g : Setting) (v : s.Content)

theorem value_change : (c.change s v).value s = v := by
  cases s <;> rfl

theorem value_other (other : g ≠ s) : (c.change s v).value g = c.value g := by
  cases s <;> cases g <;> first | rfl | exact absurd rfl other

theorem group_other (h : Setting.Group) (other : h ≠ s.group) :
    (c.change s v).group h = c.group h := by
  cases s <;> cases h <;> first | rfl | exact absurd rfl other

end

theorem unsaid_group (c : Settings) (g : Setting.Group) : g.unsaid = some (c.group g) ↔
    ∀ s : Setting, s.group = g → s.unsaid = some (c.value s) := by
  obtain ⟨k, p, f, d⟩ := c
  cases g with
  | kafka =>
    refine ⟨fun never => ?_, fun each => ?_⟩
    · cases never
    · cases each .brokers rfl
  | publish =>
    refine ⟨fun never => ?_, fun each => ?_⟩
    · cases never
    · cases each .topic rfl
  | record =>
    refine ⟨fun never => ?_, fun each => ?_⟩
    · cases never
    · cases each .schema rfl
  | driver =>
    constructor
    · intro unsaid s same
      cases unsaid
      cases s <;> first | rfl | cases same
    · intro each
      obtain ⟨interval, cycles⟩ := d
      cases each .pollIntervalMs rfl
      cases each .maxCycles rfl
      rfl

end Settings

structure Setting.Legal (s : Setting) (v : s.Content) (c : Settings) : Prop where
  fits : s.kind.Fits v
  valid : (c.change s v).validate = .ok ()

end Courier
