import Courier.CommandLine
import Courier.Fault
import Courier.Files.Sink

set_option autoImplicit false

namespace Courier

structure Link (σ : Type) where
  client : Client
  scheduler : Scheduler σ
  clock : σ

namespace Session

inductive Event where
  | reading (path : Bytes)
  | offered (m : Message)
  | wrote (name : Text) (a : Artifact)

structure State (σ : Type) where
  client : Client
  clock : σ
  journal : Array Event := #[]

end Session

structure Session (m : Type → Type) (σ : Type) where
  store : Files.Store m
  sink : Files.Sink
  publisher : Publisher
  scheduler : Scheduler σ
  maxCycles : Option Nat

namespace Session

variable {m : Type → Type} [Monad m] {σ : Type}

-- A step of a session. A failure leaves the state as it is by then, and so does a step that never
-- ends.
abbrev Step (m : Type → Type) (σ : Type) := ExceptT Fault (OptionT (StateT (State σ) m))

def act {ε α : Type} (fault : ε → Fault) (x : ExceptT ε m α) : Step m σ α :=
  ExceptT.mk (OptionT.lift (StateT.lift (x.adapt fault).run))

def endless {α : Type} : Step m σ α := ExceptT.mk OptionT.fail

def note (e : Event) : Step m σ Unit := modify fun s => { s with journal := s.journal.push e }

def drive (s : Session m σ) (batch : Batch) : Step m σ DriveReport := do
  let old ← get
  let ride : Ride σ := { batch, client := old.client, clock := old.clock }
  match ride.drive s.scheduler s.maxCycles with
  | none => endless
  | some (result, ride) =>
    let offered := (ride.client.calls.toList.drop old.client.calls.size).map Event.offered
    set ({ client := ride.client, clock := ride.clock,
           journal := old.journal ++ offered.toArray } : State σ)
    match result with
    | .ok report => return report
    | .error overrun => throw (.overrun overrun)

def write (s : Session m σ) (name : Text) (a : Artifact) : Step m σ Unit := do
  let _ ← act .files (s.sink.write s.store name a)
  note (.wrote name a)

def takeInput (s : Session m σ) (path : Bytes) (name : Text) : Step m σ Unit := do
  note (.reading path)
  let input ← act .ofUnopened (Files.readInput s.store path)
  let report ← s.drive (s.publisher.openBatch input)
  report.artifacts.forM (s.write name)

def takeAll (s : Session m σ) : List (Bytes × Text) → Step m σ Unit
  | [] => return
  | (path, name) :: rest => do
    s.takeInput path name
    s.takeAll rest

def takePaths (s : Session m σ) (paths : List Bytes) : Step m σ Unit := do
  let names ← (Files.artifactNames paths).mapError Fault.nameless
  s.takeAll (paths.zip names)

structure Opened (m : Type → Type) (σ : Type) where
  session : Session m σ
  state : State σ

def opened (store : Files.Store m) (loader : Settings.Loader m) (env : List (Text × Text))
    (connect : Settings → Except Kafka.SetupFault (Link σ)) (o : Options) :
    ExceptT Fault m (Opened m σ) := do
  let settings ← (loader.load env o.config).adapt .settings
  let link ← (connect settings).mapError Fault.setup
  let publisher ← (Publisher.make settings.publish settings.record).mapError Fault.refused
  return {
    session := { store, sink := ⟨o.output, Files.Sidecar.write⟩, publisher,
                 scheduler := link.scheduler, maxCycles := settings.driver.maxCycles }
    state := { client := link.client, clock := link.clock } }

def run (store : Files.Store m) (loader : Settings.Loader m) (env : List (Text × Text))
    (connect : Settings → Except Kafka.SetupFault (Link σ)) (o : Options) :
    m (Option (Except Fault Unit) × Array Event) := do
  match ← opened store loader env connect o with
  | .error fault => return (some (.error fault), #[])
  | .ok ⟨session, state⟩ =>
    let (result, state) ← (session.takePaths o.inputs).run.run state
    return (result, state.journal)

inductive Exit where
  | done
  | refused (r : CommandLine.Refusal)
  | failed (fault : Fault)

def Exit.code : Exit → Nat
  | done => 0
  | refused r => r.exitCode
  | failed _ => 1

def Exit.ofResult : Except Fault Unit → Exit
  | .ok _ => done
  | .error fault => failed fault

def program (store : Files.Store m) (loader : Settings.Loader m) (env : List (Text × Text))
    (connect : Settings → Except Kafka.SetupFault (Link σ)) (arguments : List Bytes) :
    m (Option Exit × Array Event) := do
  match CommandLine.parse arguments with
  | .error r => return (some (.refused r), #[])
  | .ok o =>
    let (result, journal) ← run store loader env connect o
    return (result.map .ofResult, journal)

end Session

end Courier
