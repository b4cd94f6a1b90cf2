import Courier.Publish.Publisher
import Courier.Rehearsal.Desk
import Courier.Rehearsal.Script

set_option autoImplicit false

namespace Courier.Rehearsal

structure Exchange where
  script : Script
  publisher : Publisher
  client : Client
  batches : Array Batch := #[]
  queue : RunQueue := {}

namespace Exchange

def new (script : Script) (publisher : Publisher) : Exchange :=
  { script, publisher, client := script.client }

def openBatch (e : Exchange) (input : Input) : Exchange :=
  { e with batches := e.batches.push (e.publisher.openBatch input) }

def cycle (e : Exchange) (number : Nat) : Option (Batch.CycleResult × Exchange) :=
  e.batches[number]?.map fun batch =>
    let first := e.client.calls.size
    let (result, batch, client) := batch.cycle e.client
    (result,
      { e with client := client, batches := e.batches.setIfInBounds number batch,
               queue := e.queue.start (awaitedFrom batch.tracker first) })

def any (e : Exchange) (p : Tracker → Bool) : Bool := e.batches.any fun b => p b.tracker

-- Events reach every batch; those that are about another one's calls change nothing.
def applyAll (e : Exchange) (events : List Tracker.Event) : Array Batch :=
  e.batches.map fun b => { b with tracker := b.tracker.applyAll events }

def acknowledge (e : Exchange) (call : Nat) (signal : Signal) : Bool × Exchange :=
  if e.script.isManual call && e.any (·.isOpen call) then
    (true, { e with batches := e.applyAll [.resolve call signal], queue := e.queue.wake call })
  else (false, e)

def settle (e : Exchange) : Exchange :=
  let (events, queue) := e.queue.settle fun call => e.any (·.isDue call)
  { e with batches := e.applyAll events, queue := queue }

end Exchange

end Courier.Rehearsal
