import Courier.Publish.Client

set_option autoImplicit false

namespace Courier.Rehearsal

inductive Behaviour where
  | deliver
  | fail (report : Report)
  | refuse (report : Report)
  | full
  | manual
  | hang
  | panic
  | delay (ms : Nat) (signal : Signal)
deriving DecidableEq, Repr

def Behaviour.answer : Behaviour → Answer
  | .deliver => .taken (some .delivered)
  | .fail report => .taken (some (.failed report))
  | .refuse report => .ofReport report
  | .full => .full "Local: Queue full".toList
  | .manual => .taken none
  | .hang => .taken none
  | .panic => .taken (some .crashed)
  | .delay 0 signal => .taken (some signal)
  | .delay _ _ => .taken none

structure Script where
  steps : List Behaviour := []
  otherwise : Behaviour := .deliver

namespace Script

def behaviour (s : Script) (call : Nat) : Behaviour := s.steps[call]?.getD s.otherwise

def client (s : Script) : Client := { answer := fun call _ => (s.behaviour call).answer }

def isManual (s : Script) (call : Nat) : Bool := s.behaviour call == .manual

def delay? (s : Script) (call : Nat) : Option (Nat × Signal) :=
  match s.behaviour call with
  | .delay ms signal => some (ms, signal)
  | _ => none

end Script

end Courier.Rehearsal
