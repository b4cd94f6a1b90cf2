import Courier.Record
import Courier.Text.Utf8

set_option autoImplicit false

namespace Courier

inductive Unwritable where
  | width (ordinal found expected : Nat)
  | unquotable (ordinal field : Nat)
deriving DecidableEq, Repr

def Unwritable.message : Unwritable → String
  | .width ordinal found expected =>
    s!"record {ordinal} has {found} fields, schema expects {expected}"
  | .unquotable ordinal field =>
    s!"record {ordinal} field {field} cannot be written without quoting"

namespace Writer

def needsQuotes (delimiter : Char) (value : Text) : Bool :=
  value.any fun c => c == delimiter || c == '"' || c == '\n' || c == '\r'

def escape (value : Text) : Text :=
  value.flatMap fun c => if c == '"' then ['"', '"'] else [c]

def quote (value : Text) : Text := '"' :: escape value ++ ['"']

-- The written form of a value; none where it needs quotes and they are not allowed.
def field? (mode : QuoteMode) (delimiter : Char) (value : Text) : Option Text :=
  match mode with
  | .all => some (quote value)
  | .minimal => some (if needsQuotes delimiter value then quote value else value)
  | .never => if needsQuotes delimiter value then none else some value

end Writer

def Format.fields (f : Format) (r : Record) : Except Unwritable (List Text) :=
  r.fields.zipIdx.mapM fun (value, i) =>
    match Writer.field? f.quoteMode f.delimiter value with
    | some t => .ok t
    | none => .error (.unquotable r.ordinal i)

def Format.render (f : Format) (r : Record) : Except Unwritable Bytes :=
  if r.fields.length ≠ f.width then .error (.width r.ordinal r.fields.length f.width)
  else (f.fields r).map fun parts => Utf8.encode ([f.delimiter].intercalate parts ++ ['\n'])

end Courier
