import Courier.Settings
import Courier.Settings.Layer

set_option autoImplicit false

namespace Courier

namespace Settings

structure Section where
  name : String
  size : Nat
deriving DecidableEq, Repr

inductive Misfit where
  | scalar (found expected : String) (key : List Step) (origin : Option Text)
  | shape (found expected : String)
  | notOneCharacter (t : Text)
  | missing (field : Text)
  -- A list that ends before a field that has to be there.
  | short (length : Nat) (part : Section)
  | noVariant (name : Text)
  | notVariant
deriving DecidableEq, Repr

def keyText : List Step → Text
  | [] => []
  | .index i :: steps => '[' :: Decimal.writeInt i ++ ']' :: keyText steps
  | .name t :: steps =>
    match keyText steps with
    | [] => t
    | '[' :: rest => t ++ '[' :: rest
    | rest => t ++ '.' :: rest

def Misfit.message : Misfit → String
  | .scalar found expected key origin =>
    s!"invalid type: {found}, expected {expected} for key " ++
      "`" ++ String.ofList (keyText key) ++ "`" ++
      (match origin with
        | some o => s!" in {String.ofList o}"
        | none => "")
  | .shape found expected => s!"invalid type: {found}, expected {expected}"
  | .notOneCharacter t =>
    s!"invalid value: string {String.ofList (Text.shown t)}, expected a character"
  | .missing field => "missing field `" ++ String.ofList field ++ "`"
  | .short length part =>
    s!"invalid length {length}, expected struct {part.name} with {part.size} elements"
  | .noVariant name => s!"enum QuoteMode does not have variant constructor {String.ofList name}"
  | .notVariant =>
    "value of enum QuoteMode should be represented by either string or table with exactly one key"

def Value.shape : Value → String
  | .scalar _ .null => "unit value"
  | .scalar _ (.bool b) => if b then "boolean `true`" else "boolean `false`"
  | .scalar _ (.int i) => "integer `" ++ toString i ++ "`"
  | .scalar _ (.real r) => "floating point `" ++ String.ofList r.toTextWithPoint ++ "`"
  | .scalar _ (.text t) => s!"string {String.ofList (Text.shown t)}"
  | .list _ _ => "sequence"
  | .table _ _ => "map"

abbrev Decoder (α : Type) := List Step → Value → Except Misfit α

namespace Decode

def refuse {α : Type} (expected : String) (key : List Step) (v : Value) : Except Misfit α :=
  .error (.scalar v.found expected key v.origin)

def word? (t : Text) : Option Bool :=
  if t = "true".toList ∨ t = "on".toList ∨ t = "yes".toList then some true
  else if t = "false".toList ∨ t = "off".toList ∨ t = "no".toList then some false
  else none

def bool : Decoder Bool := fun key v =>
  match v with
  | .scalar _ (.bool b) => .ok b
  | .scalar _ (.int i) => .ok (i != 0)
  | .scalar _ (.real r) => .ok !r.isZero
  | .scalar o (.text t) =>
    let low := Text.lower t
    if low = ['1'] then .ok true
    else if low = ['0'] then .ok false
    else
      match word? low with
      | some b => .ok b
      | none => refuse "a boolean" key (.scalar o (.text low))
  | _ => refuse "a boolean" key v

def text : Decoder Text := fun key v =>
  match v with
  | .scalar _ (.text t) => .ok t
  | .scalar _ (.bool b) => .ok (if b then "true" else "false").toList
  | .scalar _ (.int i) => .ok (Decimal.writeInt i)
  | .scalar _ (.real r) => .ok r.toText
  | _ => refuse "a string" key v

def whole (lo hi : Int) (read? : Text → Option Int) : Decoder Int := fun key v =>
  match v with
  | .scalar _ (.int i) => .ok i
  | .scalar _ (.bool b) => .ok (if b then 1 else 0)
  | .scalar _ (.real r) => .ok (r.toInt lo hi)
  | .scalar _ (.text t) =>
    match word? (Text.lower t), read? t with
    | some b, _ => .ok (if b then 1 else 0)
    | none, some i => .ok i
    | none, none => refuse "an integer" key v
  | _ => refuse "an integer" key v

def unsigned64 : Decoder Nat := fun key v => do
  let i ← whole 0 Decimal.max64 (fun t => (Decimal.upTo? Decimal.max64 t).map Int.ofNat) key v
  if i < 0 then refuse "an unsigned 64 bit or less integer" key v else .ok i.toNat

def unsigned32 : Decoder Nat := fun key v => do
  let n ← unsigned64 key v
  if n ≤ 0xFFFFFFFF then .ok n
  else .error (.scalar ("64-bit unsigned integer `" ++ toString n ++ "`")
    "an unsigned 32 bit integer" key none)

def signed32 : Decoder Int := fun key v => do
  let i ← whole (-Decimal.half64) (Decimal.half64 - 1) Decimal.signed64? key v
  if -0x80000000 ≤ i ∧ i < 0x80000000 then .ok i
  else .error (.scalar ("64-bit integer `" ++ toString i ++ "`")
    "an signed 32 bit integer" key none)

def character : Decoder Char := fun _ v =>
  match v with
  | .scalar _ (.text [c]) => .ok c
  | .scalar _ (.text t) => .error (.notOneCharacter t)
  | v => .error (.shape v.shape "a character")

def optional {α : Type} (d : Decoder α) : Decoder (Option α) := fun key v =>
  match v with
  | .scalar _ .null => .ok none
  | v => some <$> d key v

def items {α : Type} (d : Decoder α) (key : List Step) (i : Nat) :
    List Value → Except Misfit (List α)
  | [] => .ok []
  | v :: rest => do return (← d (key ++ [.index i]) v) :: (← items d key (i + 1) rest)

def list {α : Type} (d : Decoder α) : Decoder (List α) := fun key v =>
  match v with
  | .list _ vs => items d key 0 vs
  | v => .error (.shape v.shape "a sequence")

def attributes : Decoder Attributes := fun key v =>
  match v with
  | .table _ es =>
    es.foldlM (fun all (name, v) => return all.insert name (← text (key ++ [.name name]) v)) ∅
  | v => .error (.shape v.shape "a map")

def variant (name : Text) : Except Misfit QuoteMode :=
  let low := Text.lower name
  if low = "all".toList then .ok .all
  else if low = "minimal".toList then .ok .minimal
  else if low = "never".toList then .ok .never
  else .error (.noVariant name)

def quoteMode : Decoder QuoteMode := fun _ v =>
  match v with
  | .scalar _ (.text t) => variant t
  | .table _ [(name, _)] => variant name
  | _ => .error .notVariant

end Decode

inductive Fields where
  | named (entries : List (Text × Value))
  | placed (items : List Value)

namespace Fields

def ofValue (part : Section) (v : Value) : Except Misfit Fields :=
  match v with
  | .table _ es => .ok (named es)
  | .list _ vs => .ok (placed vs)
  | v => .error (.shape v.shape s!"struct {part.name}")

def field? (place : Nat) (name : String) : Fields → Option (Step × Value)
  | named es => (es.lookup name.toList).map (.name name.toList, ·)
  | placed vs => vs[place]?.map (.index place, ·)

def read? {α : Type} (fs : Fields) (key : List Step) (place : Nat) (name : String)
    (d : Decoder α) : Except Misfit (Option α) :=
  match fs.field? place name with
  | some (step, v) => some <$> d (key ++ [step]) v
  | none => .ok none

def absent (part : Section) (place : Nat) (name : String) : Fields → Misfit
  | named _ => .missing name.toList
  | placed _ => .short place part

def require {α : Type} (fs : Fields) (part : Section) (place : Nat) (name : String) :
    Option α → Except Misfit α
  | some a => .ok a
  | none => .error (fs.absent part place name)

end Fields

end Settings

open Settings

def KafkaSettings.part : Section := ⟨"KafkaConfig", 9⟩
def PublishSettings.part : Section := ⟨"PublishConfig", 5⟩
def Format.part : Section := ⟨"RecordConfig", 4⟩
def DriverSettings.part : Section := ⟨"DriverConfig", 2⟩
def Settings.part : Section := ⟨"Config", 4⟩

def KafkaSettings.decode : Decoder KafkaSettings := fun key v => do
  let fs ← Fields.ofValue part v
  let brokers ← fs.read? key 0 "brokers" (Decode.list Decode.text)
  let compression ← fs.read? key 1 "compression" Decode.text
  let acks ← fs.read? key 2 "acks" Decode.text
  let lingerMs ← fs.read? key 3 "linger_ms" Decode.unsigned32
  let batchSize ← fs.read? key 4 "batch_size" Decode.unsigned64
  let messageTimeoutMs ← fs.read? key 5 "message_timeout_ms" Decode.unsigned64
  let createTopic ← fs.read? key 6 "create_topic" Decode.bool
  let partitions ← fs.read? key 7 "partitions" Decode.signed32
  let replicationFactor ← fs.read? key 8 "replication_factor" Decode.signed32
  let d : KafkaSettings := { brokers := ← fs.require part 0 "brokers" brokers }
  return {
    d with
    compression := compression.getD d.compression
    acks := acks.getD d.acks
    lingerMs := lingerMs.getD d.lingerMs
    batchSize := batchSize.getD d.batchSize
    messageTimeoutMs := messageTimeoutMs.getD d.messageTimeoutMs
    createTopic := createTopic.getD d.createTopic
    partitions := partitions.getD d.partitions
    replicationFactor := replicationFactor.getD d.replicationFactor }

def PublishSettings.decode : Decoder PublishSettings := fun key v => do
  let fs ← Fields.ofValue part v
  let topic ← fs.read? key 0 "topic" Decode.text
  let asyncEnabled ← fs.read? key 1 "async_enabled" Decode.bool
  let maxAsyncRequests ← fs.read? key 2 "max_async_requests" (Decode.optional Decode.unsigned64)
  let keyFields ← fs.read? key 3 "key_fields" (Decode.list Decode.text)
  let mappedProperties ← fs.read? key 4 "mapped_properties" Decode.attributes
  let d : PublishSettings := .ofTopic (← fs.require part 0 "topic" topic)
  return {
    d with
    asyncEnabled := asyncEnabled.getD d.asyncEnabled
    maxAsyncRequests := maxAsyncRequests.getD d.maxAsyncRequests
    keyFields := keyFields.getD d.keyFields
    mappedProperties := mappedProperties.getD d.mappedProperties }

def Format.decode : Decoder Format := fun key v => do
  let fs ← Fields.ofValue part v
  let schema ← fs.read? key 0 "schema" (Decode.list Decode.text)
  let delimiter ← fs.read? key 1 "delimiter" Decode.character
  let trimFields ← fs.read? key 2 "trim_fields" Decode.bool
  let quoteMode ← fs.read? key 3 "quote_mode" Decode.quoteMode
  let d : Format := { schema := ← fs.require part 0 "schema" schema }
  return {
    d with
    delimiter := delimiter.getD d.delimiter
    trimFields := trimFields.getD d.trimFields
    quoteMode := quoteMode.getD d.quoteMode }

def DriverSettings.decode : Decoder DriverSettings := fun key v => do
  let fs ← Fields.ofValue part v
  let pollIntervalMs ← fs.read? key 0 "poll_interval_ms" Decode.unsigned64
  let maxCycles ← fs.read? key 1 "max_cycles" (Decode.optional Decode.unsigned64)
  let d : DriverSettings := {}
  return { pollIntervalMs := pollIntervalMs.getD d.pollIntervalMs,
           maxCycles := maxCycles.getD d.maxCycles }

-- The settings in a value. What is there is read before anything is missed.
def Settings.decode (v : Value) : Except Misfit Settings := do
  let fs ← Fields.ofValue part v
  let kafka ← fs.read? [] 0 "kafka" KafkaSettings.decode
  let publish ← fs.read? [] 1 "publish" PublishSettings.decode
  let record ← fs.read? [] 2 "record" Format.decode
  let driver ← fs.read? [] 3 "driver" DriverSettings.decode
  return {
    kafka := ← fs.require part 0 "kafka" kafka
    publish := ← fs.require part 1 "publish" publish
    record := ← fs.require part 2 "record" record
    driver := driver.getD {} }

end Courier
