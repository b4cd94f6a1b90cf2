import Courier.Record

set_option autoImplicit false

namespace Courier

inductive KeyRule where
  | none
  | field (index : Nat)
  | composite (indices : List Nat)
deriving DecidableEq, Repr

namespace KeyRule

structure UnknownField where
  name : Text
deriving DecidableEq, Repr

def UnknownField.message (e : UnknownField) : String :=
  s!"key field '{String.ofList e.name}' is not part of the record schema"

def indexOf (schema : List Text) (name : Text) : Except UnknownField Nat :=
  match schema.idxOf? name with
  | some i => .ok i
  | Option.none => .error ⟨name⟩

def ofIndices : List Nat → KeyRule
  | [] => .none
  | [i] => .field i
  | is => .composite is

def ofSchema (schema keyFields : List Text) : Except UnknownField KeyRule :=
  (keyFields.mapM (indexOf schema)).map ofIndices

def value? (fields : List Text) (index : Nat) : Option Text :=
  fields[index]?.filter (!·.isEmpty)

def extract (fields : List Text) : KeyRule → Option Text
  | .none => Option.none
  | .field i => value? fields i
  | .composite is => (is.mapM (value? fields)).map [':'].intercalate

end KeyRule

end Courier
