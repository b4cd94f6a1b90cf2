import Courier.Publish.Client

set_option autoImplicit false

namespace Courier.Kafka

inductive Stage where
  | production
  | flush
  | other (name : Text)
deriving DecidableEq, Repr

structure Reason where
  name : Text
  description : Text
deriving DecidableEq, Repr

namespace Reason

def queueFull : Reason := ⟨"QueueFull".toList, "Local: Queue full".toList⟩

def invalidArgument : Reason :=
  ⟨"InvalidArgument".toList, "Local: Invalid argument or configuration".toList⟩

def tooLarge : Reason := ⟨"MessageSizeTooLarge".toList, "Broker: Message size too large".toList⟩

def timedOut : Reason := ⟨"MessageTimedOut".toList, "Local: Message timed out".toList⟩

def purged : Reason := ⟨"PurgeQueue".toList, "Local: Purged in queue".toList⟩

end Reason

structure Failure where
  stage : Stage
  reason : Reason
deriving DecidableEq, Repr

def Stage.label : Stage → Text
  | .production => "Message production error".toList
  | .flush => "Flush error".toList
  | .other name => name

def Failure.note (f : Failure) : Text :=
  f.stage.label ++ ": ".toList ++ f.reason.name ++ " (".toList ++ f.reason.description ++ [')']

def Failure.ofMessage (r : Reason) : Failure := ⟨.production, r⟩

def Failure.report (f : Failure) : Report :=
  ⟨if f.stage = .production ∧ f.reason.name = Reason.queueFull.name then .queueFull else .publish,
    f.note⟩

end Courier.Kafka
