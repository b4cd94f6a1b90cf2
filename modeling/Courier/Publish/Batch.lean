import Courier.Publish.Ledger
import Courier.Publish.Tracker
import Courier.Record.Reader

set_option autoImplicit false

/- A batch: all records of one input, followed until each has an outcome. A cycle hands over as many
   records as slots and client allow, collects the outcomes that are there, and emits the artifacts
   once every record has one. It never waits. A cycle is one step: acknowledgments end and tasks run
   between two cycles. That none of them does so between the handing over and the collecting of one
   cycle is a premise here, as on a runtime of one thread. -/
namespace Courier

structure Input where
  content : Bytes
  attributes : Attributes := ∅

inductive Unreadable where
  | empty
  | malformed (fault : Malformed)
deriving DecidableEq, Repr

namespace Batch

inductive Stage where
  -- Some records have not been handed over.
  | opened
  -- All are handed over, some are under way.
  | draining
  -- All have an outcome and the artifacts are out.
  | resolved
deriving DecidableEq, Repr

structure CycleResult where
  stillPending : Bool := false
  success : Option Artifact := none
  failure : Option Artifact := none
  submitted : Nat := 0
  resolved : Nat := 0

def CycleResult.madeProgress (r : CycleResult) : Bool :=
  0 < r.submitted || 0 < r.resolved || !r.stillPending

end Batch

structure Batch where
  input : Input
  recordCount : Nat
  unsubmitted : List Record
  -- Set until the first cycle when there are no records.
  unreadable : Option Unreadable
  tracker : Tracker
  ledger : Ledger := {}
  stage : Batch.Stage := .opened
  cycles : Nat := 0

namespace Batch

def new (input : Input) (records : List Record) (unreadable : Option Unreadable)
    (tracker : Tracker) : Batch :=
  { input, recordCount := records.length, unsubmitted := records, unreadable, tracker }

def isResolved (b : Batch) : Bool := b.stage == .resolved
def submittedCount (b : Batch) : Nat := b.recordCount - b.unsubmitted.length
def inFlight (b : Batch) : Nat := b.tracker.inFlight.size

structure Admission where
  tracker : Tracker
  ledger : Ledger
  client : Client
  submitted : Nat := 0
  resolved : Nat := 0

-- Hands records over until one is deferred; that one and those after it stay. A record that
-- cannot be written fails with the octets it was read from.
def handOver : List Record → Admission → List Record × Admission
  | [], a => ([], a)
  | r :: rest, ⟨tracker, ledger, client, submitted, resolved⟩ =>
    match tracker.submit r client with
    | (.accepted, tracker, client) =>
      handOver rest ⟨tracker, ledger, client, submitted + 1, resolved⟩
    | (.rejected back _, tracker, client) =>
      handOver rest ⟨tracker, ledger.recordFailure back.ordinal back.raw, client, submitted,
        resolved + 1⟩
    | (.deferred back, tracker, client) =>
      (back :: rest, ⟨tracker, ledger, client, submitted, resolved⟩)

-- Enters an outcome: a record that was delivered with the octets it was read from, one that
-- failed with those it was sent as.
def enter (l : Ledger) (c : Completion) : Ledger :=
  match c.outcome with
  | .delivered => l.recordSuccess c.record.ordinal c.record.raw
  | .failed _ => l.recordFailure c.record.ordinal c.payload

def stageOf (unsubmitted : List Record) (tracker : Tracker) : Stage :=
  if !unsubmitted.isEmpty then .opened
  else if 0 < tracker.inFlight.size then .draining
  else .resolved

def whole (b : Batch) : Artifact :=
  { relationship := .failure, content := b.input.content,
    attributes := b.input.attributes.insert Artifact.topicName b.tracker.topic }

def advance (b : Batch) (c : Client) : CycleResult × Batch × Client :=
  let (unsubmitted, a) :=
    handOver b.unsubmitted { tracker := b.tracker, ledger := b.ledger, client := c }
  let (completions, tracker) := a.tracker.poll
  let ledger := completions.foldl enter a.ledger
  let resolved := a.resolved + completions.size
  let stage := stageOf unsubmitted tracker
  let b' : Batch :=
    { b with unsubmitted := unsubmitted, tracker := tracker, ledger := ledger, stage := stage,
             cycles := b.cycles + 1 }
  if stage == .resolved then
    let (success, failure) := ledger.assemble tracker.topic b.input.attributes
    ({ success, failure, submitted := a.submitted, resolved }, b', a.client)
  else
    ({ stillPending := true, submitted := a.submitted, resolved }, b', a.client)

def cycle (b : Batch) (c : Client) : CycleResult × Batch × Client :=
  if b.stage == .resolved then ({}, b, c)
  else
    match b.unreadable with
    | some _ =>
      ({ failure := some b.whole },
        { b with unreadable := none, stage := .resolved, cycles := b.cycles + 1 }, c)
    | none => b.advance c

end Batch

end Courier
