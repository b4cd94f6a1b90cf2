import Courier.Artifact

set_option autoImplicit false

namespace Courier

structure Ledger where
  success : Std.ExtTreeMap Nat Bytes := ∅
  failure : Std.ExtTreeMap Nat Bytes := ∅

namespace Ledger

def recordSuccess (l : Ledger) (ordinal : Nat) (octets : Bytes) : Ledger :=
  { l with success := l.success.insert ordinal octets }

def recordFailure (l : Ledger) (ordinal : Nat) (octets : Bytes) : Ledger :=
  { l with failure := l.failure.insert ordinal octets }

def successCount (l : Ledger) : Nat := l.success.size
def failureCount (l : Ledger) : Nat := l.failure.size
def resolvedCount (l : Ledger) : Nat := l.successCount + l.failureCount

def artifact? (relationship : Relationship) (side : Std.ExtTreeMap Nat Bytes) (topic : Text)
    (attributes : Attributes) : Option Artifact :=
  if side.isEmpty then none
  else
    let artifact : Artifact :=
      { relationship, content := side.toList.flatMap (·.2), attributes }
    some ((artifact.withAttribute Artifact.msgCount (Decimal.write side.size)).withAttribute
      Artifact.topicName topic)

def assemble (l : Ledger) (topic : Text) (attributes : Attributes) :
    Option Artifact × Option Artifact :=
  (artifact? .success l.success topic attributes, artifact? .failure l.failure topic attributes)

end Ledger

end Courier
