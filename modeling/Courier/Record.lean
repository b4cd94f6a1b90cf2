import Courier.Text

set_option autoImplicit false

namespace Courier

inductive QuoteMode where
  | all
  | minimal
  | never
deriving DecidableEq, Repr

structure Format where
  schema : List Text
  delimiter : Char := ','
  trimFields : Bool := true
  quoteMode : QuoteMode := .all
deriving DecidableEq

def Format.width (f : Format) : Nat := f.schema.length

-- One line of an input, bound for the broker. `raw` is what the input holds for it, its line end
-- and neighbouring blank lines included; `ordinal` is its position in the batch, from zero.
structure Record where
  ordinal : Nat
  raw : Bytes
  fields : List Text
  key : Option Text := none
deriving DecidableEq

end Courier
