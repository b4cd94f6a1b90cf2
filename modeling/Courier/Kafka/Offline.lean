import Courier.Kafka.Failure
import Courier.Kafka.Properties
import Courier.Rehearsal.Clock
import Courier.Session
import Courier.Text.Utf8

set_option autoImplicit false

/- The broker client while no broker answers. It refuses a message that no broker could take, queues
   any other, and gives it up after a time or when the client itself goes. -/
namespace Courier.Kafka.Offline

def longestTopic : Nat := 512

def largestMessage : Nat := 1000000

def overhead : Nat := 36

def size (m : Message) : Nat :=
  m.payload.length + (m.key.elim 0 fun k => (Utf8.encode k).length) + overhead

def refusal? (m : Message) : Option Reason :=
  if longestTopic < (Utf8.encode m.topic).length then some .invalidArgument
  else if largestMessage < size m then some .tooLarge
  else none

def answer (m : Message) : Answer :=
  match refusal? m with
  | some r => .ofReport (Failure.ofMessage r).report
  | none => .taken none

def client : Client where
  answer _ m := answer m

-- How messages end that were in the queue when the client went.
def dropped : Signal := .failed (Failure.ofMessage .purged).report

def deadline? (k : KafkaSettings) : Option (Nat × Signal) :=
  if k.messageTimeoutMs = 0 then none
  else some (k.messageTimeoutMs, .failed (Failure.ofMessage .timedOut).report)

def connect (s : Settings) : Except SetupFault (Link Rehearsal.Clock) := do
  if s.kafka.createTopic then throw .noBroker
  check (properties s.kafka)
  return {
    client
    scheduler := Rehearsal.Clock.scheduler s.driver.pollIntervalMs fun _ => deadline? s.kafka
    clock := {} }

end Courier.Kafka.Offline
