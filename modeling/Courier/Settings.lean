import Courier.Artifact
import Courier.Record.Key

set_option autoImplicit false

namespace Courier

structure KafkaSettings where
  brokers : List Text
  compression : Text := "snappy".toList
  acks : Text := "all".toList
  lingerMs : Nat := 5
  batchSize : Nat := 16384
  messageTimeoutMs : Nat := 30000
  createTopic : Bool := false
  partitions : Int := 1
  replicationFactor : Int := 1

structure PublishSettings where
  topic : Text
  asyncEnabled : Bool := true
  -- The most records under way at a time; none for no limit.
  maxAsyncRequests : Option Nat := none
  keyFields : List Text := []
  -- The input attribute that each message property is taken from.
  mappedProperties : Attributes := ∅

structure DriverSettings where
  pollIntervalMs : Nat := 10
  maxCycles : Option Nat := none
deriving DecidableEq

structure Settings where
  kafka : KafkaSettings
  publish : PublishSettings
  record : Format
  driver : DriverSettings := {}

inductive Settings.Invalid where
  | noBrokers
  | noTopic
  | zeroLimit
  | noSchema
  | delimiter (c : Char)
  | keyField (fault : KeyRule.UnknownField)
deriving DecidableEq, Repr

def Settings.shownDelimiter (c : Char) : String :=
  if c == '\n' then "'\\n'" else if c == '\r' then "'\\r'" else s!"'{String.singleton c}'"

def Settings.Invalid.message : Settings.Invalid → String
  | .noBrokers => "kafka.brokers must not be empty"
  | .noTopic => "publish.topic must not be empty"
  | .zeroLimit => "publish.max_async_requests must be a positive integer"
  | .noSchema => "record.schema must name at least one field"
  | .delimiter c => s!"record.delimiter {shownDelimiter c} is not allowed"
  | .keyField fault => fault.message

namespace PublishSettings

def ofTopic (topic : Text) : PublishSettings := { topic }

def withMaxAsyncRequests (p : PublishSettings) (limit : Nat) : PublishSettings :=
  { p with maxAsyncRequests := some limit }

def validate (p : PublishSettings) : Except Settings.Invalid Unit :=
  if Text.allBlank p.topic then .error .noTopic
  else if p.maxAsyncRequests = some 0 then .error .zeroLimit
  else .ok ()

-- The limit that a publisher without one works under: no count of records reaches it.
def noLimit : Nat := Decimal.max64

def ceiling (p : PublishSettings) : Nat :=
  if p.asyncEnabled then p.maxAsyncRequests.getD noLimit else 1

def propertiesOf (p : PublishSettings) (attributes : Attributes) : Attributes :=
  p.mappedProperties.filterMap fun _ name => attributes[name]?

end PublishSettings

def Format.isReserved (c : Char) : Bool := c == '"' || c == '\n' || c == '\r'

def Format.validate (f : Format) : Except Settings.Invalid Unit :=
  if f.schema.isEmpty then .error .noSchema
  else if Format.isReserved f.delimiter then .error (.delimiter f.delimiter)
  else .ok ()

def Settings.validateKeyFields (schema : List Text) : List Text → Except Settings.Invalid Unit
  | [] => .ok ()
  | name :: rest =>
    if schema.contains name then validateKeyFields schema rest
    else .error (.keyField ⟨name⟩)

def Settings.validate (s : Settings) : Except Settings.Invalid Unit := do
  if s.kafka.brokers.isEmpty then throw .noBrokers
  s.publish.validate
  s.record.validate
  Settings.validateKeyFields s.record.schema s.publish.keyFields

end Courier
