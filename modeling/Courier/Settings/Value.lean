import Courier.Settings.Binary64
import Courier.Text.Shown

set_option autoImplicit false

namespace Courier.Settings

inductive Scalar where
  | null
  | bool (b : Bool)
  | int (i : Int)
  | real (r : Binary64)
  | text (t : Text)
deriving DecidableEq, Repr

-- A value and its origin. A table that has been put together from others has none.
inductive Value where
  | scalar (origin : Option Text) (s : Scalar)
  | list (origin : Option Text) (items : List Value)
  | table (origin : Option Text) (entries : List (Text × Value))

def setEntry (name : Text) (v : Value) : List (Text × Value) → List (Text × Value)
  | [] => [(name, v)]
  | (n, w) :: rest => if n == name then (n, v) :: rest else (n, w) :: setEntry name v rest

namespace Value

def origin : Value → Option Text
  | scalar o _ => o
  | list o _ => o
  | table o _ => o

def entries : Value → List (Text × Value)
  | table _ es => es
  | _ => []

def items : Value → List Value
  | list _ vs => vs
  | _ => []

def entry? (name : Text) (v : Value) : Option Value := v.entries.lookup name

def withEntries (es : List (Text × Value)) : Value → Value
  | table o _ => table o es
  | _ => table none es

def withItems (vs : List Value) : Value → Value
  | list o _ => list o vs
  | _ => list none vs

def found : Value → String
  | scalar _ .null => "unit value"
  | scalar _ (.bool b) => if b then "boolean `true`" else "boolean `false`"
  | scalar _ (.int i) => s!"64-bit integer `{i}`"
  | scalar _ (.real r) => s!"floating point `{String.ofList r.toText}`"
  | scalar _ (.text t) => s!"string {String.ofList (Text.shown t)}"
  | list _ _ => "sequence"
  | table _ _ => "map"

end Value

end Courier.Settings
