import Courier.Publish.Tracker
import Courier.Rehearsal.Script

set_option autoImplicit false

namespace Courier.Rehearsal

structure RunQueue where
  ready : List Nat := []
  asleep : List Nat := []
deriving DecidableEq

namespace RunQueue

def start (q : RunQueue) (calls : List Nat) : RunQueue := { q with ready := q.ready ++ calls }

def wake (q : RunQueue) (call : Nat) : RunQueue :=
  if q.asleep.contains call then ⟨q.ready ++ [call], q.asleep.filter (· != call)⟩ else q

def settle (q : RunQueue) (isDue : Nat → Bool) : List Tracker.Event × RunQueue :=
  (q.ready.map .run, ⟨[], q.asleep ++ q.ready.filter (!isDue ·)⟩)

end RunQueue

def awaitedFrom (t : Tracker) (first : Nat) : List Nat := t.awaited.keys.filter (first ≤ ·)

structure Desk where
  script : Script
  tracker : Tracker
  client : Client
  queue : RunQueue := {}

namespace Desk

def new (script : Script) (tracker : Tracker) : Desk :=
  { script, tracker, client := script.client }

def submit (d : Desk) (r : Record) : Submission × Desk :=
  let first := d.client.calls.size
  let (submission, tracker, client) := d.tracker.submit r d.client
  (submission,
    { d with tracker := tracker, client := client,
             queue := d.queue.start (awaitedFrom tracker first) })

def poll (d : Desk) : Array Completion × Desk :=
  let (completions, tracker) := d.tracker.poll
  (completions, { d with tracker := tracker })

def acknowledge (d : Desk) (call : Nat) (signal : Signal) : Bool × Desk :=
  if d.script.isManual call && d.tracker.isOpen call then
    (true, { d with tracker := d.tracker.apply (.resolve call signal), queue := d.queue.wake call })
  else (false, d)

def settle (d : Desk) : Desk :=
  let (events, queue) := d.queue.settle d.tracker.isDue
  { d with tracker := d.tracker.applyAll events, queue := queue }

end Desk

end Courier.Rehearsal
