import Courier.Publish.Drive
import Courier.Rehearsal.Desk

set_option autoImplicit false

/- A clock that moves only while nothing else does. After a cycle that made progress the ready tasks
   run and no time passes; after one that did not, they run, and then one poll interval passes, in
   which the acknowledgments that are due come in the order of their times. -/
namespace Courier.Rehearsal

structure Timer where
  due : Nat
  call : Nat
  signal : Signal
deriving DecidableEq

structure Clock where
  now : Nat := 0
  queue : RunQueue := {}
  -- By time, of equal times the earlier set first.
  timers : List Timer := []
  -- Calls from this number on have not been scheduled.
  nextCall : Nat := 0

namespace Clock

def setTimer (timers : List Timer) (t : Timer) : List Timer :=
  timers.takeWhile (·.due ≤ t.due) ++ t :: timers.dropWhile (·.due ≤ t.due)

def timer? (delay? : Nat → Option (Nat × Signal)) (now call : Nat) : Option Timer :=
  (delay? call).map fun (ms, signal) => ⟨now + ms, call, signal⟩

def schedule (delay? : Nat → Option (Nat × Signal)) (c : Clock) (calls : List Nat) : Clock :=
  { c with queue := c.queue.start calls,
           timers := (calls.filterMap (timer? delay? c.now)).foldl setTimer c.timers,
           nextCall := calls.foldl (fun next call => max next (call + 1)) c.nextCall }

def settle (c : Clock) (isDue : Nat → Bool) : List Tracker.Event × Clock :=
  let (events, queue) := c.queue.settle isDue
  (events, { c with queue := queue })

def ring (t : Timer) : List Tracker.Event := [.resolve t.call t.signal, .run t.call]

def pass (c : Clock) (ms : Nat) : List Tracker.Event × Clock :=
  let now := c.now + ms
  let due := c.timers.takeWhile (·.due ≤ now)
  (due.flatMap ring,
    { c with now := now, timers := c.timers.dropWhile (·.due ≤ now),
             queue := due.foldl (fun q t => { q with asleep := q.asleep.filter (· != t.call) })
               c.queue })

def scheduler (pollIntervalMs : Nat) (delay? : Nat → Option (Nat × Signal)) : Scheduler Clock where
  turn c progress tracker :=
    let c := c.schedule delay? (awaitedFrom tracker c.nextCall)
    let (events, c) := c.settle tracker.isDue
    if progress then (events, c)
    else
      let (rung, c) := c.pass pollIntervalMs
      (events ++ rung, c)

end Clock

end Courier.Rehearsal
