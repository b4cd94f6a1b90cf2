import Courier.Publish.Client
import Courier.Record.Writer

set_option autoImplicit false

/- The messages of one batch that are under way. A record that is handed over holds a slot until its
   outcome has been collected, and the slots are limited. An acknowledgment is awaited by a task of
   its own, which does nothing but put the outcome into a queue once it runs; the queue is collected
   in the order in which outcomes were put there. -/
namespace Courier

structure InFlight where
  record : Record
  payload : Bytes
deriving DecidableEq

structure Awaited where
  ordinal : Nat
  signal : Option Signal
deriving DecidableEq

structure Completion where
  record : Record
  payload : Bytes
  outcome : Outcome
deriving DecidableEq

inductive Submission where
  | accepted
  -- All slots are taken or the client has no room; it holds no slot.
  | deferred (record : Record)
  | rejected (record : Record) (fault : Unwritable)
deriving DecidableEq

structure Tracker where
  format : Format
  topic : Text
  properties : Attributes := ∅
  ceiling : Nat
  inFlight : Std.ExtTreeMap Nat InFlight := ∅
  -- Acknowledgments whose task has not finished, by call.
  awaited : Std.ExtTreeMap Nat Awaited := ∅
  finished : Array (Nat × Outcome) := #[]

namespace Tracker

def new (format : Format) (topic : Text) (properties : Attributes) (ceiling : Nat) : Tracker :=
  { format, topic, properties, ceiling := max ceiling 1 }

def hasCapacity (t : Tracker) : Bool := t.inFlight.size < t.ceiling

def message (t : Tracker) (r : Record) (payload : Bytes) : Message :=
  { topic := t.topic, key := r.key, payload, properties := t.properties }

def hold (t : Tracker) (r : Record) (payload : Bytes) : Tracker :=
  { t with inFlight := t.inFlight.insert r.ordinal ⟨r, payload⟩ }

def finish (t : Tracker) (ordinal : Nat) (outcome : Outcome) : Tracker :=
  { t with finished := t.finished.push (ordinal, outcome) }

def await (t : Tracker) (call ordinal : Nat) (signal : Option Signal) : Tracker :=
  { t with awaited := t.awaited.insert call ⟨ordinal, signal⟩ }

-- Offers a record to the client. While all slots are taken it is not even written.
def submit (t : Tracker) (r : Record) (c : Client) : Submission × Tracker × Client :=
  if !t.hasCapacity then (.deferred r, t, c)
  else
    match t.format.render r with
    | .error fault => (.rejected r fault, t, c)
    | .ok payload =>
      let call := c.calls.size
      let (answer, c') := c.publish (t.message r payload)
      match answer with
      | .full _ => (.deferred r, t, c')
      | .refused report =>
        (.accepted, (t.hold r payload).finish r.ordinal (.failed report), c')
      | .taken signal =>
        (.accepted, (t.hold r payload).await call r.ordinal signal, c')

def collect (acc : Array Completion × Std.ExtTreeMap Nat InFlight) (entry : Nat × Outcome) :
    Array Completion × Std.ExtTreeMap Nat InFlight :=
  match acc.2[entry.1]? with
  | some f => (acc.1.push ⟨f.record, f.payload, entry.2⟩, acc.2.erase entry.1)
  | none => acc

def poll (t : Tracker) : Array Completion × Tracker :=
  let (completions, inFlight) := t.finished.foldl collect (#[], t.inFlight)
  (completions, { t with inFlight, finished := #[] })

inductive Event where
  -- The acknowledgment of a call ends.
  | resolve (call : Nat) (signal : Signal)
  -- The task that awaits the acknowledgment of a call gets to run.
  | run (call : Nat)
deriving DecidableEq, Repr

def isOpen (t : Tracker) (call : Nat) : Bool :=
  match t.awaited[call]? with
  | some a => a.signal.isNone
  | none => false

def isDue (t : Tracker) (call : Nat) : Bool :=
  match t.awaited[call]? with
  | some a => a.signal.isSome
  | none => false

-- An acknowledgment ends once; a task that runs before has nothing to do yet.
def apply (t : Tracker) : Event → Tracker
  | .resolve call signal =>
    match t.awaited[call]? with
    | some ⟨ordinal, none⟩ => t.await call ordinal (some signal)
    | _ => t
  | .run call =>
    match t.awaited[call]? with
    | some ⟨ordinal, some signal⟩ =>
      { t with awaited := t.awaited.erase call }.finish ordinal signal.outcome
    | _ => t

def applyAll (t : Tracker) (events : List Event) : Tracker := events.foldl apply t

end Tracker

end Courier
