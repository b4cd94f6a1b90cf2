import Courier.Text.Utf8

set_option autoImplicit false

namespace Courier

structure Options where
  config : Bytes := Utf8.encode "publish.toml".toList
  output : Bytes := Utf8.encode "out".toList
  inputs : List Bytes
  jsonLogs : Bool := false
  verbose : Bool := false
deriving DecidableEq

namespace CommandLine

inductive Refusal where
  | help
  | unknownArgument
  | invalidValue
  | conflict
  | tooManyValues
  | noInputs
deriving DecidableEq, Repr

def Refusal.message : Refusal → String
  | help =>
    "Usage: courier [-c FILE] [-o DIR] [-j] [-v] INPUT...\n\n" ++
      "  -c, --config FILE  settings (publish.toml)\n" ++
      "  -o, --output DIR   where artifacts go (out)\n" ++
      "  -j, --json-logs    messages as JSON\n" ++
      "  -v, --verbose      more messages\n" ++
      "  -h, --help         this text"
  | unknownArgument => "error: unexpected argument"
  | invalidValue => "error: a value is required"
  | conflict => "error: an argument cannot be used multiple times"
  | tooManyValues => "error: a value for an argument that takes none"
  | noInputs => "error: no inputs given"

def Refusal.exitCode : Refusal → Nat
  | help => 0
  | _ => 2

inductive Slot where
  | config
  | output
  | inputs
deriving DecidableEq, Repr

inductive Flag where
  | jsonLogs
  | verbose
  | help
deriving DecidableEq, Repr

structure Draft where
  config : Option Bytes := none
  output : Option Bytes := none
  inputs : List Bytes := []
  jsonLogs : Bool := false
  verbose : Bool := false
  pending : Option (Slot × List Bytes) := none
deriving DecidableEq

namespace Draft

def single (old : Option Bytes) : List Bytes → Except Refusal Bytes
  | [] => .error .invalidValue
  | value :: _ =>
    if old.isSome then .error .conflict
    else if value.isEmpty then .error .invalidValue
    else .ok value

def enter (d : Draft) (values : List Bytes) : Slot → Except Refusal Draft
  | .config => (single d.config values).map fun v => { d with config := some v }
  | .output => (single d.output values).map fun v => { d with output := some v }
  | .inputs =>
    if values.any (·.isEmpty) then .error .invalidValue
    else .ok { d with inputs := d.inputs ++ values }

def settle (d : Draft) : Except Refusal Draft :=
  match d.pending with
  | some (slot, values) => { d with pending := none }.enter values slot
  | none => .ok d

def assign (d : Draft) (slot : Slot) (value : Bytes) : Except Refusal Draft := do
  (← d.settle).enter [value] slot

def await (d : Draft) (slot : Slot) : Except Refusal Draft := do
  return { ← d.settle with pending := some (slot, []) }

def raise (d : Draft) (flag : Flag) : Except Refusal Draft := do
  let d ← d.settle
  match flag with
  | .jsonLogs => if d.jsonLogs then throw .conflict else return { d with jsonLogs := true }
  | .verbose => if d.verbose then throw .conflict else return { d with verbose := true }
  | .help => throw .help

def addInput (d : Draft) (token : Bytes) : Except Refusal Draft := do
  match d.pending with
  | some (.inputs, values) => return { d with pending := some (.inputs, values ++ [token]) }
  | _ => return { ← d.settle with pending := some (.inputs, [token]) }

def addValue (d : Draft) (token : Bytes) : Except Refusal Draft :=
  match d.pending with
  | some (.config, []) => .ok { d with pending := some (.config, [token]) }
  | some (.output, []) => .ok { d with pending := some (.output, [token]) }
  | _ => d.addInput token

end Draft

def known : List (Char × String × (Slot ⊕ Flag)) :=
  [('c', "config", .inl .config), ('o', "output", .inl .output), ('j', "json-logs", .inr .jsonLogs),
   ('v', "verbose", .inr .verbose), ('h', "help", .inr .help)]

def named? (name : Bytes) : Option (Slot ⊕ Flag) :=
  (known.find? fun a => Utf8.encode a.2.1.toList = name).map (·.2.2)

def lettered? (letter : UInt8) : Option (Slot ⊕ Flag) :=
  (known.find? fun a => Utf8.encode [a.1] = [letter]).map (·.2.2)

def dash : UInt8 := 0x2D
def equals : UInt8 := 0x3D

def long (d : Draft) (text : Bytes) : Except Refusal Draft :=
  let (name, rest) := text.span (· != equals)
  match named? name, rest with
  | none, _ => .error .unknownArgument
  | some (.inl slot), [] => d.await slot
  | some (.inl slot), _ :: value => d.assign slot value
  | some (.inr flag), [] => d.raise flag
  | some (.inr _), _ :: _ => .error .tooManyValues

def letters : Bytes → Draft → Except Refusal Draft
  | [], d => .ok d
  | letter :: rest, d =>
    match lettered? letter with
    | none => .error .unknownArgument
    | some (.inr flag) => do letters rest (← d.raise flag)
    | some (.inl slot) =>
      if rest.isEmpty then d.await slot
      else d.assign slot (if rest.head? = some equals then rest.drop 1 else rest)

def take (d : Draft) (token : Bytes) : Except Refusal Draft :=
  match token with
  | a :: b :: rest =>
    if a = dash then if b = dash then long d rest else letters (b :: rest) d else d.addValue token
  | _ => d.addValue token

def takeAll : List Bytes → Draft → Except Refusal Draft
  | [], d => d.settle
  | token :: rest, d =>
    if token = [dash, dash] then do (← rest.foldlM Draft.addInput d).settle
    else do takeAll rest (← take d token)

def parse (arguments : List Bytes) : Except Refusal Options := do
  let d ← takeAll arguments {}
  if d.inputs.isEmpty then throw .noInputs
  let o : Options := { inputs := d.inputs, jsonLogs := d.jsonLogs, verbose := d.verbose }
  return { o with config := d.config.getD o.config, output := d.output.getD o.output }

end CommandLine

end Courier
