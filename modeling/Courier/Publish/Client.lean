import Courier.Artifact

set_option autoImplicit false

namespace Courier

namespace Fault

inductive Kind where
  | config
  | kafka
  | serialization
  | publish
  -- The client's own queue has no room; the message may be offered again.
  | queueFull
  | malformedInput
  | json
  | io
  | timeout
deriving DecidableEq, Repr

def Kind.label : Kind → String
  | .config => "Configuration error: "
  | .kafka => "Kafka error: "
  | .serialization => "Serialization error: "
  | .publish => "Publish error: "
  | .queueFull => "Queue full: "
  | .malformedInput => "Malformed input: "
  | .json => "JSON error: "
  | .io => "IO error: "
  | .timeout => "Timeout error: "

end Fault

structure Message where
  topic : Text
  key : Option Text
  payload : Bytes
  properties : Attributes

structure Report where
  kind : Fault.Kind
  note : Text
deriving DecidableEq, Repr

inductive Outcome where
  | delivered
  | failed (report : Report)
deriving DecidableEq, Repr

inductive Signal where
  | delivered
  | failed (report : Report)
  -- The client broke down while it was awaited.
  | crashed
deriving DecidableEq, Repr

def Signal.outcome : Signal → Outcome
  | .delivered => .delivered
  | .failed report => .failed report
  | .crashed => .failed ⟨.publish, "acknowledgment future panicked".toList⟩

inductive Answer where
  -- Taken; the acknowledgment may be there already.
  | taken (signal : Option Signal)
  | full (note : Text)
  | refused (report : Report)
deriving DecidableEq, Repr

-- A refusal for want of room is no refusal.
def Answer.ofReport (report : Report) : Answer :=
  if report.kind = .queueFull then .full report.note else .refused report

-- A client: its answer to each call, by the number of the call and the message, and the messages
-- of the calls so far.
structure Client where
  answer : Nat → Message → Answer
  calls : Array Message := #[]

def Client.publish (c : Client) (m : Message) : Answer × Client :=
  (c.answer c.calls.size m, { c with calls := c.calls.push m })

end Courier
