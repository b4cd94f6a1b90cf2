import Courier.Text.Decimal
import Std.Data.ExtTreeMap

set_option autoImplicit false

namespace Courier

abbrev Attributes := Std.ExtTreeMap Text Text

inductive Relationship where
  | success
  | failure
deriving DecidableEq, Repr

def Relationship.name : Relationship → String
  | .success => "success"
  | .failure => "failure"

structure Artifact where
  relationship : Relationship
  content : Bytes
  attributes : Attributes := ∅

namespace Artifact

def msgCount : Text := "msg.count".toList

def topicName : Text := "topic.name".toList

def withAttribute (a : Artifact) (name value : Text) : Artifact :=
  { a with attributes := a.attributes.insert name value }

def attribute? (a : Artifact) (name : Text) : Option Text := a.attributes[name]?

def messageCount? (a : Artifact) : Option Nat :=
  (a.attribute? msgCount).bind (Decimal.upTo? Decimal.max64)

end Artifact

end Courier
