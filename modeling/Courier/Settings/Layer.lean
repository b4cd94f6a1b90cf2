import Courier.Settings.Load
import Courier.Text.Lowercase

set_option autoImplicit false

namespace Courier.Settings

inductive Step where
  | name (t : Text)
  | index (i : Int)
deriving DecidableEq, Repr

structure Path where
  top : Text
  steps : List Step := []
deriving DecidableEq, Repr

namespace Path

def isPlain (c : Char) : Bool :=
  ('a' ≤ c && c ≤ 'z') || ('A' ≤ c && c ≤ 'Z') || ('0' ≤ c && c ≤ '9') ||
    c == ' ' || c == '_' || c == '-'

def isGap (c : Char) : Bool := c == ' ' || c == '\t'

def index? (t : Text) : Option (Int × Text) :=
  let (negative, t) := match t.dropWhile isGap with
    | '-' :: rest => (true, rest)
    | rest => (false, rest)
  let (digits, rest) := t.span fun c => (Decimal.digit? c).isSome
  match Decimal.nat? digits, rest.dropWhile isGap with
  | some n, ']' :: rest => some (if negative then -(n : Int) else n, rest)
  | _, _ => none

def steps? : (fuel : Nat) → Text → Option (List Step)
  | _, [] => some []
  | 0, _ => none
  | fuel + 1, '.' :: t =>
    match t.span isPlain with
    | ([], _) => none
    | (name, rest) => (steps? fuel rest).map (.name name :: ·)
  | fuel + 1, '[' :: t =>
    match index? t with
    | some (i, rest) => (steps? fuel rest).map (.index i :: ·)
    | none => none
  | _ + 1, _ => none

def ofText (t : Text) : Path :=
  match t.span isPlain with
  | ([], _) => ⟨t, []⟩
  | (top, rest) =>
    match steps? rest.length rest with
    | some steps => ⟨top, steps⟩
    | none => ⟨t, []⟩

end Path

namespace Value

mutual

-- Sets a name of a table. Tables are merged, down to the values that are no tables.
def put (name : Text) (target : Value) : Value → Value
  | .table _ es =>
    let inner := (target.entry? (Text.lower name)).getD (.table none [])
    target.withEntries (setEntry (Text.lower name) (putAll inner es) target.entries)
  | .scalar o s => target.withEntries (setEntry (Text.lower name) (.scalar o s) target.entries)
  | .list o vs => target.withEntries (setEntry (Text.lower name) (.list o vs) target.entries)

def putAll (target : Value) : List (Text × Value) → Value
  | [] => target
  | (name, v) :: rest => putAll (put name target v) rest

end

def nothing : Value := .scalar none .null

def place? (length : Nat) (i : Int) : Option Nat :=
  if 0 ≤ i then some i.toNat
  else if i.natAbs ≤ length then some (length - i.natAbs)
  else none

-- Changes what a step leads to. What is no table or list on the way becomes one, and a list that
-- is too short is filled up.
def alter (f : Value → Value) : Step → Value → Value
  | .name name, target =>
    target.withEntries (setEntry name (f ((target.entry? name).getD nothing)) target.entries)
  | .index i, target =>
    match place? target.items.length i with
    | none => target.withItems target.items
    | some k => target.withItems ((target.items.rightpad (k + 1) nothing).modify k f)

def putAt (v : Value) : Step → List Step → Value → Value
  | .name name, [], target => put name target v
  | .index i, [], target => alter (fun _ => v) (.index i) target
  | step, next :: steps, target => alter (putAt v next steps) step target

def set (target : Value) (e : Text × Value) : Value :=
  let path := Path.ofText e.1
  putAt e.2 (.name path.top) path.steps target

def build (layers : List Layer) : Value :=
  layers.foldl (fun v layer => layer.foldl set v) (.table none [])

end Value

def ofVariable? (n : Naming) (name value : Text) : Option (Text × Value) :=
  ((Text.lower (n.start ++ n.startSeparator)).isPrefixOf? (Text.lower name)).map fun rest =>
    (Text.replace n.separator ['.'] rest, .scalar (some "the environment".toList) (.text value))

def ofEnvironment (n : Naming) (env : List (Text × Text)) : Layer :=
  env.filterMap fun (name, value) => ofVariable? n name value

end Courier.Settings
