import Courier.Settings.Toml.Scalar

set_option autoImplicit false

/- Settings in TOML. A document is read expression by expression into a tree of tables that know how
   they came to be, since a table may be opened once by a header, may be filled through dotted keys
   only as long as no header has opened it, and an inline table or a list is closed for good. -/
namespace Courier.Settings.Toml

inductive Node where
  | leaf (v : Value)
  -- A table; `implicit` until a header opens it, `dotted` if dotted keys made it.
  | table (implicit dotted : Bool) (entries : List (Text × Node))
  -- Tables under one name, the latest first.
  | tables (items : List (List (Text × Node)))

abbrev Entries := List (Text × Node)

def get? (name : Text) : Entries → Option Node
  | [] => none
  | (n, node) :: rest => if n == name then some node else get? name rest

def set (name : Text) (node : Node) : Entries → Entries
  | [] => [(name, node)]
  | (n, old) :: rest => if n == name then (n, node) :: rest else (n, old) :: set name node rest

-- Changes the table at a path, of which `f` is told whether dotted keys made it. Tables that are
-- missing on the way are made. Under a name with several tables the latest is meant.
def update (dotted : Bool) (f : Bool → Entries → Option Entries) :
    List Text → Bool → Entries → Option Entries
  | [], isDotted, es => f isDotted es
  | name :: path, _, es =>
    match get? name es with
    | none => (update dotted f path dotted []).map fun es' => set name (.table true dotted es') es
    | some (.leaf _) => none
    | some (.table implicit isDotted inner) =>
      if dotted && !implicit then none
      else
        (update dotted f path isDotted inner).map fun es' =>
          set name (.table implicit isDotted es') es
    | some (.tables []) => none
    | some (.tables (last :: earlier)) =>
      (update dotted f path false last).map fun es' => set name (.tables (es' :: earlier)) es

def openTable (name : Text) (_ : Bool) (es : Entries) : Option Entries :=
  match get? name es with
  | none => some (set name (.table false false []) es)
  | some (.table true false inner) => some (set name (.table false false inner) es)
  | some _ => none

def openNext (name : Text) (_ : Bool) (es : Entries) : Option Entries :=
  match get? name es with
  | none => some (set name (.tables [[]]) es)
  | some (.tables items) => some (set name (.tables ([] :: items)) es)
  | some _ => none

def assign (path : List Text) (name : Text) (v : Value) (isDotted : Bool) (es : Entries) :
    Option Entries :=
  if isDotted == path.isEmpty then none
  else
    match get? name es with
    | none => some (es ++ [(name, .leaf v)])
    | some _ => none

def assignAt (path : List Text) (name : Text) (v : Value) (es : Entries) : Option Entries :=
  update true (assign path name v) path false es

mutual

def Node.value (o : Option Text) : Node → Value
  | .leaf v => v
  | .table _ _ es => .table o (entriesValue o es)
  | .tables items => .list o (tablesValue o [] items)

def entriesValue (o : Option Text) : List (Text × Node) → List (Text × Value)
  | [] => []
  | (name, node) :: rest => (name, node.value o) :: entriesValue o rest

def tablesValue (o : Option Text) (acc : List Value) : List (List (Text × Node)) → List Value
  | [] => acc
  | es :: rest => tablesValue o (.table o (entriesValue o es) :: acc) rest

end

def isBare (c : Char) : Bool :=
  ('a' ≤ c && c ≤ 'z') || ('A' ≤ c && c ≤ 'Z') || Json.isDigit c || c == '_' || c == '-'

def simpleKey? : Text → Option (Text × Text)
  | '"' :: rest => basic [] rest
  | '\'' :: rest => literal [] rest
  | t =>
    match t.span isBare with
    | ([], _) => none
    | (name, rest) => some (name, rest)

def key? : (fuel : Nat) → List Text → Text → Option (List Text × Text × Text)
  | 0, _, _ => none
  | fuel + 1, path, t =>
    match simpleKey? (skipWhite t) with
    | none => none
    | some (name, rest) =>
      match skipWhite rest with
      | '.' :: rest => key? fuel (path ++ [name]) rest
      | rest => some (path, name, rest)

def skipLines : (fuel : Nat) → Text → Text
  | 0, t => t
  | fuel + 1, t =>
    match newline? (skipLine t) with
    | some rest => skipLines fuel rest
    | none => skipLine t

mutual

def value? (o : Option Text) : (fuel depth : Nat) → Text → Option (Value × Text)
  | 0, _, _ => none
  | fuel + 1, depth, t =>
    match t with
    | '[' :: rest =>
      match depth with
      | 0 => none
      | depth + 1 => items? o fuel depth [] rest
    | '\x7b' :: rest =>
      match depth with
      | 0 => none
      | depth + 1 =>
        match skipWhite rest with
        | '\x7d' :: rest => some (.table o [], rest)
        | rest => members? o fuel depth [] rest
    | _ => (scalar? t).map fun (s, rest) => (.scalar o s, rest)

def items? (o : Option Text) : (fuel depth : Nat) → List Value → Text → Option (Value × Text)
  | 0, _, _, _ => none
  | fuel + 1, depth, acc, t =>
    match skipLines t.length t with
    | ']' :: rest => some (.list o acc.reverse, rest)
    | t =>
      match value? o fuel depth t with
      | none => none
      | some (v, rest) =>
        match skipLines rest.length rest with
        | ',' :: rest => items? o fuel depth (v :: acc) rest
        | ']' :: rest => some (.list o (v :: acc).reverse, rest)
        | _ => none

def members? (o : Option Text) : (fuel depth : Nat) → Entries → Text → Option (Value × Text)
  | 0, _, _, _ => none
  | fuel + 1, depth, es, t =>
    match key? (t.length + 1) [] t with
    | some (path, name, '=' :: rest) =>
      match value? o fuel depth (skipWhite rest) with
      | none => none
      | some (v, rest) =>
        match assignAt path name v es with
        | none => none
        | some es =>
          match skipWhite rest with
          | ',' :: rest => members? o fuel depth es rest
          | '\x7d' :: rest => some (.table o (entriesValue o es), rest)
          | _ => none
    | _ => none

end

def lineEnd? (t : Text) : Option Text :=
  match skipLine t with
  | [] => some []
  | t => newline? t

structure State where
  current : List Text := []
  root : Entries := []

def header? (double : Bool) (s : State) (t : Text) : Option (State × Text) := do
  let (path, name, rest) ← key? (t.length + 1) [] t
  let rest ← mark? (· == ']') rest
  let rest ← if double then mark? (· == ']') rest else some rest
  let root ← update false (if double then openNext name else openTable name) path false s.root
  return (⟨path ++ [name], root⟩, rest)

def pair? (o : Option Text) (s : State) (t : Text) : Option (State × Text) := do
  let (path, name, rest) ← key? (t.length + 1) [] t
  let rest ← mark? (· == '=') rest
  let rest := skipWhite rest
  let (v, rest) ← value? o (3 * rest.length + 3) 79 rest
  let root ← update false (fun _ es => assignAt path name v es) s.current false s.root
  return ({ s with root }, rest)

def expression? (o : Option Text) (s : State) : Text → Option (State × Text)
  | '[' :: '[' :: rest => header? true s rest
  | '[' :: rest => header? false s rest
  | t => pair? o s t

def expressions? (o : Option Text) : (fuel : Nat) → State → Text → Option State
  | 0, _, _ => none
  | fuel + 1, s, t =>
    match skipLine t with
    | [] => some s
    | t =>
      match newline? t with
      | some rest => expressions? o fuel s rest
      | none =>
        match expression? o s t with
        | none => none
        | some (s, rest) =>
          match lineEnd? rest with
          | none => none
          | some rest => expressions? o fuel s rest

def read? (origin : Text) (t : Text) : Option Value :=
  (expressions? (some origin) (t.length + 1) {} t).map fun s =>
    .table (some origin) (entriesValue (some origin) s.root)

end Courier.Settings.Toml
