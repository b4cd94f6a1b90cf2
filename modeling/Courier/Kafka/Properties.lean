import Courier.Settings

set_option autoImplicit false

namespace Courier.Kafka

abbrev Properties := List (String × Text)

def properties (k : KafkaSettings) : Properties :=
  [("bootstrap.servers", [','].intercalate k.brokers),
   ("compression.type", k.compression),
   ("acks", k.acks),
   ("linger.ms", Decimal.write k.lingerMs),
   ("batch.size", Decimal.write k.batchSize),
   ("message.timeout.ms", Decimal.write k.messageTimeoutMs)]

inductive SetupFault where
  | property (name : String) (value : Text)
  | noBroker
deriving DecidableEq, Repr

def SetupFault.message : SetupFault → String
  | property name value =>
    s!"Client config error: invalid value \"{String.ofList value}\" for property \"{name}\""
  | noBroker => "Meta data fetch error: BrokerTransportFailure (Local: Broker transport failure)"

def isSpace (c : Char) : Bool := c == ' ' || ('\t' ≤ c && c ≤ '\r')

def lowerAscii (t : Text) : Text := t.map Char.toLower

def wrap32 (i : Int) : Int := i.bmod 0x100000000

def number? (t : Text) : Option Int :=
  let t := t.dropWhile isSpace
  let (negative, t) := match t with
    | '-' :: rest => (true, rest)
    | '+' :: rest => (false, rest)
    | rest => (false, rest)
  (Decimal.nat? (t.takeWhile fun c => (Decimal.digit? c).isSome)).map fun n =>
    wrap32 (if negative then max (-(n : Int)) (-Decimal.half64)
      else min (n : Int) (Decimal.half64 - 1))

def isBetween (lo hi : Int) (t : Text) : Bool :=
  match number? t with
  | some i => lo ≤ i && i ≤ hi
  | none => false

def compressions : List String := ["none", "gzip", "snappy", "lz4", "zstd"]

def isCompression (t : Text) : Bool :=
  let t := lowerAscii (((t.dropWhile isSpace).reverse.dropWhile isSpace).reverse)
  compressions.any fun name => name.toList = t

def isAcks (t : Text) : Bool := isBetween (-1) 1000 t || lowerAscii t = "all".toList

def takes (name : String) (value : Text) : Bool :=
  match name with
  | "compression.type" => isCompression value
  | "acks" => isAcks value
  | "linger.ms" => ((Decimal.nat? value).any (· ≤ 900000))
  | "batch.size" => isBetween 1 0x7FFFFFFF value
  | "message.timeout.ms" => isBetween 0 0x7FFFFFFF value
  | _ => true

def check (ps : Properties) : Except SetupFault Unit :=
  match ps.find? fun p => !takes p.1 p.2 with
  | some (name, value) => .error (.property name value)
  | none => .ok ()

end Courier.Kafka
