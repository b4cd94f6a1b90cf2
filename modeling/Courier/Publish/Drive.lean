import Courier.Publish.Publisher

set_option autoImplicit false

namespace Courier

-- What happens to acknowledgments between two cycles, after a cycle that made progress or one
-- that did not.
structure Scheduler (σ : Type) where
  turn : σ → Bool → Tracker → List Tracker.Event × σ

structure Ride (σ : Type) where
  batch : Batch
  client : Client
  clock : σ

structure DriveReport where
  cycles : Nat
  success : Option Artifact
  failure : Option Artifact

def DriveReport.artifacts (r : DriveReport) : List Artifact :=
  r.success.toList ++ r.failure.toList

structure Overrun where
  inFlight : Nat
  unsubmitted : Nat
  cycles : Nat
deriving DecidableEq, Repr

def Overrun.message (o : Overrun) : String :=
  s!"batch still has {o.inFlight} records in flight and {o.unsubmitted} unsubmitted " ++
    s!"after {o.cycles} cycles"

namespace Ride

variable {σ : Type}

def cycle (r : Ride σ) : Batch.CycleResult × Ride σ :=
  let (result, batch, client) := r.batch.cycle r.client
  (result, { r with batch := batch, client := client })

def turn (s : Scheduler σ) (progress : Bool) (r : Ride σ) : Ride σ :=
  let (events, clock) := s.turn r.clock progress r.batch.tracker
  { r with batch := { r.batch with tracker := r.batch.tracker.applyAll events }, clock := clock }

def overrun (r : Ride σ) (cycles : Nat) : Overrun :=
  { inFlight := r.batch.inFlight,
    unsubmitted := r.batch.recordCount - r.batch.submittedCount, cycles }

-- Runs a cycle and, while the batch is pending, at most `left` more; `done` have been run.
def driveFrom (s : Scheduler σ) : (left done : Nat) → Ride σ → Except Overrun DriveReport × Ride σ
  | left, done, r =>
    let (result, r') := r.cycle
    if !result.stillPending then
      (.ok { cycles := done + 1, success := result.success, failure := result.failure }, r')
    else
      match left with
      | 0 => (.error (r'.overrun (done + 1)), r')
      | left + 1 => driveFrom s left (done + 1) (r'.turn s result.madeProgress)

-- Runs cycles until the batch resolves. There is no end where it never does.
def driveToEnd (s : Scheduler σ) (done : Nat) (r : Ride σ) : Option (DriveReport × Ride σ) :=
  let (result, r') := r.cycle
  if !result.stillPending then
    some ({ cycles := done + 1, success := result.success, failure := result.failure }, r')
  else
    r'.turn s result.madeProgress |>.driveToEnd s (done + 1)
partial_fixpoint

-- Drives a batch for at most `maxCycles` cycles, at least one, or without a limit to its end.
def drive (s : Scheduler σ) (maxCycles : Option Nat) (r : Ride σ) :
    Option (Except Overrun DriveReport × Ride σ) :=
  match maxCycles with
  | some limit => some (driveFrom s (limit - 1) 0 r)
  | none => (driveToEnd s 0 r).map fun (report, r') => (.ok report, r')

end Ride

end Courier
