import Courier.Settings.Json

set_option autoImplicit false

namespace Courier.Settings.Toml

def isWhite (c : Char) : Bool := c == ' ' || c == '\t'

def skipWhite (t : Text) : Text := t.dropWhile isWhite

def newline? : Text → Option Text
  | '\n' :: rest => some rest
  | '\r' :: '\n' :: rest => some rest
  | _ => none

def isControl (c : Char) : Bool := (c.toNat < 0x20 && c != '\t') || c.toNat == 0x7F

def comment? : Text → Option Text
  | '#' :: rest => some (rest.dropWhile fun c => !isControl c)
  | _ => none

def skipLine (t : Text) : Text :=
  let t := skipWhite t
  (comment? t).getD t

def hexValue (digits : List Char) : Option Nat :=
  digits.foldlM (fun n c => (Json.hexDigit? c).map (n * 16 + ·)) 0

def charOf? (n : Nat) : Option Char :=
  if n < 0xD800 || (0xDFFF < n && n < 0x110000) then some (Char.ofNat n) else none

def escaped? : Char → Option Char
  | 'b' => some '\x08'
  | 't' => some '\t'
  | 'n' => some '\n'
  | 'f' => some '\x0c'
  | 'r' => some '\r'
  | '"' => some '"'
  | '\\' => some '\\'
  | _ => none

def basic (acc : Text) : Text → Option (Text × Text)
  | [] => none
  | '"' :: rest => some (acc.reverse, rest)
  | '\\' :: 'u' :: a :: b :: c :: d :: rest =>
    match (hexValue [a, b, c, d]).bind charOf? with
    | some x => basic (x :: acc) rest
    | none => none
  | '\\' :: 'U' :: a :: b :: c :: d :: e :: f :: g :: h :: rest =>
    match (hexValue [a, b, c, d, e, f, g, h]).bind charOf? with
    | some x => basic (x :: acc) rest
    | none => none
  | '\\' :: c :: rest =>
    match escaped? c with
    | some x => basic (x :: acc) rest
    | none => none
  | c :: rest => if isControl c then none else basic (c :: acc) rest

def literal (acc : Text) : Text → Option (Text × Text)
  | [] => none
  | '\'' :: rest => some (acc.reverse, rest)
  | c :: rest => if isControl c then none else literal (c :: acc) rest

-- The rest after three quotes that close a string, with the one or two quotes before them that
-- still belong to it.
def closing? (q : Char) : Text → Option (Text × Text)
  | a :: b :: c :: rest =>
    if a == q && b == q && c == q then
      match rest with
      | d :: e :: rest' =>
        if d == q && e == q then some ([q, q], rest')
        else if d == q then some ([q], e :: rest')
        else some ([], d :: e :: rest')
      | [d] => if d == q then some ([q], []) else some ([], [d])
      | [] => some ([], [])
    else none
  | _ => none

def foldLines (fuel : Nat) (t : Text) : Text :=
  match fuel with
  | 0 => t
  | fuel + 1 =>
    match newline? (skipWhite t) with
    | some rest => foldLines fuel rest
    | none => skipWhite t

def basicLines (acc : Text) : (fuel : Nat) → Text → Option (Text × Text)
  | 0, _ => none
  | fuel + 1, t =>
    match closing? '"' t with
    | some (quotes, rest) => some ((quotes ++ acc).reverse, rest)
    | none =>
      match t with
      | [] => none
      | '\\' :: 'u' :: a :: b :: c :: d :: rest =>
        match (hexValue [a, b, c, d]).bind charOf? with
        | some x => basicLines (x :: acc) fuel rest
        | none => none
      | '\\' :: 'U' :: a :: b :: c :: d :: e :: f :: g :: h :: rest =>
        match (hexValue [a, b, c, d, e, f, g, h]).bind charOf? with
        | some x => basicLines (x :: acc) fuel rest
        | none => none
      | '\\' :: c :: rest =>
        match escaped? c with
        | some x => basicLines (x :: acc) fuel rest
        | none =>
          match newline? (skipWhite (c :: rest)) with
          | some rest => basicLines acc fuel (foldLines rest.length rest)
          | none => none
      | c :: rest =>
        match newline? (c :: rest) with
        | some rest => basicLines ('\n' :: acc) fuel rest
        | none => if isControl c then none else basicLines (c :: acc) fuel rest

def literalLines (acc : Text) : (fuel : Nat) → Text → Option (Text × Text)
  | 0, _ => none
  | fuel + 1, t =>
    match closing? '\'' t with
    | some (quotes, rest) => some ((quotes ++ acc).reverse, rest)
    | none =>
      match t with
      | [] => none
      | c :: rest =>
        match newline? (c :: rest) with
        | some rest => literalLines ('\n' :: acc) fuel rest
        | none => if isControl c then none else literalLines (c :: acc) fuel rest

def dropNewline (t : Text) : Text := (newline? t).getD t

def string? : Text → Option (Text × Text)
  | '"' :: '"' :: '"' :: rest => basicLines [] (rest.length + 1) (dropNewline rest)
  | '\'' :: '\'' :: '\'' :: rest => literalLines [] (rest.length + 1) (dropNewline rest)
  | '"' :: rest => basic [] rest
  | '\'' :: rest => literal [] rest
  | _ => none

def digitRun (isDigit : Char → Bool) (acc : Text) : Text → Text × Text
  | [] => (acc.reverse, [])
  | '_' :: c :: rest =>
    if !acc.isEmpty && isDigit c then digitRun isDigit (c :: acc) rest
    else (acc.reverse, '_' :: c :: rest)
  | c :: rest => if isDigit c then digitRun isDigit (c :: acc) rest else (acc.reverse, c :: rest)

def sign : Text → Option Bool × Text
  | '-' :: rest => (some true, rest)
  | '+' :: rest => (some false, rest)
  | t => (none, t)

def decimal? (t : Text) : Option (Bool × Text × Text) :=
  let (s, t) := sign t
  match t with
  | '0' :: rest => some (s.getD false, ['0'], rest)
  | _ =>
    match digitRun Json.isDigit [] t with
    | ([], _) => none
    | (digits, rest) => some (s.getD false, digits, rest)

def inBase? (base : Nat) (digits : Text) : Option Nat :=
  digits.foldlM (fun n c => ((Json.hexDigit? c).filter (· < base)).map (n * base + ·)) 0

def isBaseDigit (base : Nat) (c : Char) : Bool := ((Json.hexDigit? c).filter (· < base)).isSome

def prefixed? (base : Nat) (t : Text) : Option (Scalar × Text) := do
  let (digits, rest) := digitRun (isBaseDigit base) [] t
  if digits.isEmpty then none
  let n ← inBase? base digits
  if n < Decimal.half64 then some (.int n, rest) else none

def integer? : Text → Option (Scalar × Text)
  | '0' :: 'x' :: rest => prefixed? 16 rest
  | '0' :: 'o' :: rest => prefixed? 8 rest
  | '0' :: 'b' :: rest => prefixed? 2 rest
  | t => do
    let (negative, digits, rest) ← decimal? t
    let n ← Decimal.nat? digits
    if negative then (if n ≤ Decimal.half64 then some (.int (-(n : Int)), rest) else none)
    else if n < Decimal.half64 then some (.int n, rest) else none

def exponent? : Text → Option (Int × Text)
  | c :: rest =>
    if c == 'e' || c == 'E' then
      let (s, rest) := sign rest
      match digitRun Json.isDigit [] rest with
      | ([], _) => none
      | (digits, rest) =>
        (Decimal.nat? digits).map fun n => (if s == some true then -(n : Int) else n, rest)
    else none
  | [] => none

def fraction? (negative : Bool) (digits places : Text) (e : Int) (rest : Text) :
    Option (Scalar × Text) := do
  let n ← Decimal.nat? (digits ++ places)
  let r := Binary64.ofDecimal negative n (e - places.length)
  if r == .infinite false then none else some (.real r, rest)

def special? (t : Text) : Option (Scalar × Text) :=
  match sign t with
  | (s, 'i' :: 'n' :: 'f' :: rest) => some (.real (.infinite (s == some true)), rest)
  | (_, 'n' :: 'a' :: 'n' :: rest) => some (.real .nan, rest)
  | _ => none

def float? (t : Text) : Option (Scalar × Text) :=
  match decimal? t with
  | none => special? t
  | some (negative, digits, '.' :: rest) =>
    match digitRun Json.isDigit [] rest with
    | ([], _) => none
    | (places, rest) =>
      match exponent? rest with
      | some (e, rest) => fraction? negative digits places e rest
      | none => fraction? negative digits places 0 rest
  | some (negative, digits, rest) =>
    match exponent? rest with
    | some (e, rest) => fraction? negative digits [] e rest
    | none => none

def fixed? (count lo hi : Nat) (t : Text) : Option (Nat × Text) := do
  let digits := t.take count
  if digits.length != count then none
  let n ← (if digits.all Json.isDigit then Decimal.nat? digits else none)
  if lo ≤ n && n ≤ hi then some (n, t.drop count) else none

def mark? (p : Char → Bool) : Text → Option Text
  | c :: rest => if p c then some rest else none
  | [] => none

def isLeap (year : Nat) : Bool := (year % 4 == 0 && year % 100 != 0) || year % 400 == 0

def daysIn (year month : Nat) : Nat :=
  if month == 2 then (if isLeap year then 29 else 28)
  else if month == 4 || month == 6 || month == 9 || month == 11 then 30
  else 31

def padded (count n : Nat) : Text :=
  let digits := Decimal.write n
  List.replicate (count - digits.length) '0' ++ digits

def date? (t : Text) : Option (Option Text × Text) := do
  let (year, rest) ← fixed? 4 0 9999 t
  let rest ← mark? (· == '-') rest
  let (month, rest) ← fixed? 2 1 12 rest
  let rest ← mark? (· == '-') rest
  let (day, rest) ← fixed? 2 1 31 rest
  let shown := padded 4 year ++ '-' :: padded 2 month ++ '-' :: padded 2 day
  some (if day ≤ daysIn year month then some shown else none, rest)

def secondFraction (t : Text) : Text × Text :=
  match t with
  | '.' :: rest =>
    match rest.span Json.isDigit with
    | ([], _) => ([], t)
    | (digits, rest) =>
      match ((digits.take 9).reverse.dropWhile (· == '0')).reverse with
      | [] => ([], rest)
      | kept => ('.' :: kept, rest)
  | _ => ([], t)

def time? (t : Text) : Option (Text × Text) := do
  let (hour, rest) ← fixed? 2 0 23 t
  let rest ← mark? (· == ':') rest
  let (minute, rest) ← fixed? 2 0 59 rest
  let rest ← mark? (· == ':') rest
  let (second, rest) ← fixed? 2 0 60 rest
  let (fraction, rest) := secondFraction rest
  some (padded 2 hour ++ ':' :: padded 2 minute ++ ':' :: padded 2 second ++ fraction, rest)

def offset? (t : Text) : Option (Text × Text) :=
  match t with
  | 'Z' :: rest => some (['Z'], rest)
  | 'z' :: rest => some (['Z'], rest)
  | _ =>
    match sign t with
    | (none, _) => none
    | (some negative, rest) => do
      let (hours, rest) ← fixed? 2 0 23 rest
      let rest ← mark? (· == ':') rest
      let (minutes, rest) ← fixed? 2 0 59 rest
      let c := if negative && hours + minutes != 0 then '-' else '+'
      some (c :: padded 2 hours ++ ':' :: padded 2 minutes, rest)

def dateTime? (t : Text) : Option (Option Text × Text) :=
  match date? t with
  | none => (time? t).map fun (shown, rest) => (some shown, rest)
  | some (date, rest) =>
    match (mark? (fun c => c == 'T' || c == 't' || c == ' ') rest).bind time? with
    | none => some (date, rest)
    | some (time, rest) =>
      match offset? rest with
      | some (offset, rest) => some (date.map (· ++ 'T' :: time ++ offset), rest)
      | none => some (date.map (· ++ 'T' :: time), rest)

def number? (t : Text) : Option (Scalar × Text) :=
  match dateTime? t with
  | some (shown, rest) => shown.map fun s => (.text s, rest)
  | none =>
    match float? t with
    | some r => some r
    | none => integer? t

def scalar? (t : Text) : Option (Scalar × Text) :=
  match t with
  | 't' :: 'r' :: 'u' :: 'e' :: rest => some (.bool true, rest)
  | 'f' :: 'a' :: 'l' :: 's' :: 'e' :: rest => some (.bool false, rest)
  | '"' :: _ => (string? t).map fun (s, rest) => (.text s, rest)
  | '\'' :: _ => (string? t).map fun (s, rest) => (.text s, rest)
  | _ => number? t

end Courier.Settings.Toml
