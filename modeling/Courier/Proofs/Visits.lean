import Courier.Proofs.Artifacts
import Courier.Proofs.Driving
import Courier.Proofs.Sinks
import Courier.Proofs.Twins
import Courier.Session

set_option autoImplicit false

namespace Courier

variable {δ σ : Type}

def Sided (success failure : Option Artifact) : Prop :=
  (∀ a ∈ success, a.relationship = .success) ∧ ∀ a ∈ failure, a.relationship = .failure

namespace Ride

end Ride

namespace Session

structure World (δ σ : Type) where
  disk : δ
  client : Client
  clock : σ

def World.state (w : World δ σ) (journal : Array Event) : State σ :=
  { client := w.client, clock := w.clock, journal }

def ran {α : Type} (x : Step (StateM δ) σ α) (state : State σ) (disk : δ) :
    (Option (Except Fault α) × State σ) × δ := (x.run.run.run state).run disk

variable {α β : Type} {w w' w'' : World δ σ}

variable (s : Session (StateM δ) σ)

def reads (path : Bytes) (disk : δ) : Except Files.Unopened Input × δ :=
  (Files.readInput s.store path).run.run disk

def writes (name : Text) (a : Artifact) (disk : δ) : Except Files.Trouble Bytes × δ :=
  (s.sink.write s.store name a).run.run disk

inductive Written (name : Text) : δ → List Artifact → δ → Prop where
  | nothing (disk : δ) : Written name disk [] disk
  | more (disk between last : δ) (place : Bytes) (a : Artifact) (rest : List Artifact) :
    s.writes name a disk = (.ok place, between) → Written name between rest last →
    Written name disk (a :: rest) last

structure Visit where
  path : Bytes
  name : Text
  offered : List Message
  wrote : List Artifact

def Visit.input (v : Visit) : Bytes × Text := (v.path, v.name)

def Visit.events (v : Visit) : List Event :=
  .reading v.path :: v.offered.map Event.offered ++ v.wrote.map (Event.wrote v.name)

structure Driven (w : World δ σ) (v : Visit) (result : Except Overrun DriveReport)
    (w' : World δ σ) : Prop where
  read : ∃ input batch, s.reads v.path w.disk = (.ok input, w'.disk) ∧
    Ride.drive s.scheduler s.maxCycles ⟨s.publisher.openBatch input, w.client, w.clock⟩ =
      some (result, ⟨batch, w'.client, w'.clock⟩)
  offered : w'.client.calls.toList = w.client.calls.toList ++ v.offered

inductive Whole (w : World δ σ) (v : Visit) : World δ σ → Prop where
  | intro (between : World δ σ) (report : DriveReport) (disk : δ) :
    Driven s w v (.ok report) between →
    v.wrote = report.success.toList ++ report.failure.toList →
    Sided report.success report.failure →
    Written s v.name between.disk v.wrote disk → Whole w v { between with disk := disk }

inductive Broken (w : World δ σ) (v : Visit) : Fault → World δ σ → Prop where
  | unread (fault : Files.Unopened) (disk : δ) : s.reads v.path w.disk = (.error fault, disk) →
    v.offered = [] → v.wrote = [] → Broken w v (.ofUnopened fault) { w with disk := disk }
  | overrun (fault : Overrun) (w' : World δ σ) : Driven s w v (.error fault) w' → v.wrote = [] →
    Broken w v (.overrun fault) w'
  | unwritten (between : World δ σ) (report : DriveReport) (disk last : δ) (a : Artifact)
    (rest : List Artifact) (trouble : Files.Trouble) : Driven s w v (.ok report) between →
    report.success.toList ++ report.failure.toList = v.wrote ++ a :: rest →
    Written s v.name between.disk v.wrote disk →
    s.writes v.name a disk = (.error trouble, last) →
    Broken w v (.files trouble) { between with disk := last }

-- A visit that goes on for ever: its batch never resolves, and nothing limits the drive.
structure Endless (w : World δ σ) (path : Bytes) (w' : World δ σ) : Prop where
  read : ∃ input, s.reads path w.disk = (.ok input, w'.disk) ∧
    Ride.drive s.scheduler s.maxCycles ⟨s.publisher.openBatch input, w.client, w.clock⟩ = none
  unlimited : s.maxCycles = none
  client : w'.client = w.client
  clock : w'.clock = w.clock

inductive Tour : World δ σ → List Visit → World δ σ → Prop where
  | stay (w : World δ σ) : Tour w [] w
  | visit (w between last : World δ σ) (v : Visit) (visits : List Visit) :
    Whole s w v between → Tour between visits last → Tour w (v :: visits) last

-- How a session goes on some inputs under their names: all of them are visited, or those before
-- the first that fails or never ends and that one.
inductive Ending (w : World δ σ) (inputs : List (Bytes × Text)) :
    Option (Except Fault Unit) → List Event → World δ σ → Prop where
  | through (visits : List Visit) (last : World δ σ) : Tour s w visits last →
    inputs = visits.map Visit.input →
    Ending w inputs (some (.ok ())) (visits.flatMap Visit.events) last
  | stopped (visits : List Visit) (between last : World δ σ) (v : Visit) (fault : Fault)
    (rest : List (Bytes × Text)) : Tour s w visits between → Broken s between v fault last →
    inputs = visits.map Visit.input ++ v.input :: rest →
    Ending w inputs (some (.error fault)) (visits.flatMap Visit.events ++ v.events) last
  | endless (visits : List Visit) (between last : World δ σ) (path : Bytes) (name : Text)
    (rest : List (Bytes × Text)) : Tour s w visits between → Endless s between path last →
    inputs = visits.map Visit.input ++ (path, name) :: rest →
    Ending w inputs none (visits.flatMap Visit.events ++ [.reading path]) last

variable {s}

end Session

end Courier
