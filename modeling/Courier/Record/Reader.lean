import Courier.Record.Fields
import Courier.Record.Key
import Courier.Text.Utf8

set_option autoImplicit false

/- Reading records. The input is cut after every line feed; a blank line makes no record, every
   other line makes one, and the first line that is not UTF-8, leaves a quote open or has the wrong
   number of fields makes the whole input malformed. The octets of blank lines go to the record
   before them, those ahead of the first record to that one, so the raw parts of the records tile
   the input. -/
namespace Courier

inductive LineFault where
  | encoding (fault : Utf8.Fault)
  | unterminated
  | width (expected found : Nat)
deriving DecidableEq, Repr

def LineFault.message : LineFault → String
  | .encoding fault => fault.message
  | .unterminated => "unterminated quoted field"
  | .width expected found => s!"expected {expected} fields, found {found}"

-- The first line that cannot be read, counted from one with blank lines counted, and why.
structure Malformed where
  line : Nat
  fault : LineFault
deriving DecidableEq, Repr

def Malformed.message (m : Malformed) : String :=
  s!"line {m.line}: {m.fault.message}"

namespace Reader

def lineFeed : UInt8 := 0x0A

def lines (input : Bytes) : List Bytes :=
  input.foldr (fun b ls =>
    if b == lineFeed then [b] :: ls
    else match ls with
      | [] => [[b]]
      | l :: rest => (b :: l) :: rest) []

inductive Line where
  | blank (raw : Bytes)
  | row (raw : Bytes) (fields : List Text)
deriving DecidableEq

def isLineEnd (c : Char) : Bool := c == '\r' || c == '\n'

def body (text : Text) : Text := (text.reverse.dropWhile isLineEnd).reverse

def readLine (f : Format) (raw : Bytes) : Except LineFault Line :=
  match Utf8.decode raw with
  | .error e => .error (.encoding e)
  | .ok text =>
    let line := body text
    if Text.allBlank line then .ok (.blank raw)
    else
      match Fields.split? f.delimiter f.trimFields line with
      | none => .error .unterminated
      | some fields =>
        if fields.length = f.width then .ok (.row raw fields)
        else .error (.width f.width fields.length)

def readLines (f : Format) (input : Bytes) : Except Malformed (List Line) :=
  ((lines input).zipIdx 1).mapM fun (raw, number) =>
    (readLine f raw).mapError (Malformed.mk number)

-- Gives every row the blank lines after it; what is left are the blank lines before the first.
def attach : List Line → Bytes × List (Bytes × List Text) :=
  List.foldr (fun line (blanks, rows) =>
    match line with
    | .blank raw => (raw ++ blanks, rows)
    | .row raw fields => ([], (raw ++ blanks, fields) :: rows)) ([], [])

def tile (ls : List Line) : List (Bytes × List Text) :=
  match attach ls with
  | (_, []) => []
  | (lead, (raw, fields) :: rows) => (lead ++ raw, fields) :: rows

def number (key : KeyRule) (rows : List (Bytes × List Text)) : List Record :=
  rows.zipIdx.map fun ((raw, fields), ordinal) =>
    { ordinal, raw, fields, key := key.extract fields }

end Reader

def Format.parse (f : Format) (key : KeyRule) (input : Bytes) : Except Malformed (List Record) :=
  (Reader.readLines f input).map fun ls => Reader.number key (Reader.tile ls)

end Courier
