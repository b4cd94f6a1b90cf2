import Courier.Settings.Value

set_option autoImplicit false

namespace Courier.Settings.Json

def isSpace (c : Char) : Bool := c == ' ' || c == '\n' || c == '\t' || c == '\r'

def skip (t : Text) : Text := t.dropWhile isSpace

def isDigit (c : Char) : Bool := (Decimal.digit? c).isSome

def hexDigit? (c : Char) : Option Nat :=
  if '0' ≤ c ∧ c ≤ '9' then some (c.toNat - '0'.toNat)
  else if 'a' ≤ c ∧ c ≤ 'f' then some (c.toNat - 'a'.toNat + 10)
  else if 'A' ≤ c ∧ c ≤ 'F' then some (c.toNat - 'A'.toNat + 10)
  else none

def hex4? (a b c d : Char) : Option Nat := do
  return (((← hexDigit? a) * 16 + (← hexDigit? b)) * 16 + (← hexDigit? c)) * 16 + (← hexDigit? d)

def escaped? : Char → Option Char
  | '"' => some '"'
  | '\\' => some '\\'
  | '/' => some '/'
  | 'b' => some '\x08'
  | 'f' => some '\x0c'
  | 'n' => some '\n'
  | 'r' => some '\r'
  | 't' => some '\t'
  | _ => none

def isLeading (n : Nat) : Bool := 0xD800 ≤ n && n ≤ 0xDBFF
def isTrailing (n : Nat) : Bool := 0xDC00 ≤ n && n ≤ 0xDFFF

def string (acc : Text) : Text → Option (Text × Text)
  | [] => none
  | '"' :: rest => some (acc.reverse, rest)
  | '\\' :: 'u' :: a :: b :: c :: d :: '\\' :: 'u' :: e :: f :: g :: h :: rest =>
    match hex4? a b c d with
    | none => none
    | some n =>
      if isLeading n then
        match hex4? e f g h with
        | none => none
        | some m =>
          if isTrailing m then
            string (Char.ofNat (0x10000 + (n - 0xD800) * 0x400 + (m - 0xDC00)) :: acc) rest
          else none
      else if isTrailing n then none
      else string (Char.ofNat n :: acc) ('\\' :: 'u' :: e :: f :: g :: h :: rest)
  | '\\' :: 'u' :: a :: b :: c :: d :: rest =>
    match hex4? a b c d with
    | none => none
    | some n => if isLeading n || isTrailing n then none else string (Char.ofNat n :: acc) rest
  | '\\' :: c :: rest =>
    match escaped? c with
    | none => none
    | some e => string (e :: acc) rest
  | c :: rest => if c.toNat < 0x20 then none else string (c :: acc) rest

def gather : Nat → Text → Nat × Text
  | n, [] => (n, [])
  | n, c :: rest =>
    let next := n * 10 + (c.toNat - '0'.toNat)
    if Decimal.max64 < next then (n, c :: rest) else gather next rest

-- A number of at most 64 bits times a power of ten, rounded at each of at most two steps: once
-- to the format and once more after multiplying or dividing by the power. Powers far below the
-- format's range are divided out in parts. None where the result is beyond the format.
def power? (n : Nat) (power : Int) : Option Binary64 :=
  let significand := Binary64.ofDecimal false n 0
  if n == 0 then some significand
  else if 308 < power then none
  else if 0 ≤ power then
    match significand.multiply (.ofDecimal false 1 power) with
    | .finite s m e => some (.finite s m e)
    | _ => none
  else if -308 ≤ power then some (significand.divide (.ofDecimal false 1 (-power)))
  else if -616 ≤ power then
    some ((significand.divide (.ofDecimal false 1 308)).divide (.ofDecimal false 1 (-power - 308)))
  else some (.finite false 0 0)

def signed (negative : Bool) (r : Binary64) : Binary64 := if negative then r.negate else r

def whole (negative : Bool) (n : Nat) : Scalar :=
  if negative then
    if n == 0 || Decimal.half64 < n then .real (signed true (.ofDecimal false n 0))
    else .int (-(n : Int))
  else if n < Decimal.half64 then .int n
  else .real (.ofDecimal false n 0)

def exponent (t : Text) : Option (Option Int × Text) :=
  match t with
  | c :: rest =>
    if c == 'e' || c == 'E' then
      let (negative, rest) := match rest with
        | '-' :: rest => (true, rest)
        | '+' :: rest => (false, rest)
        | rest => (false, rest)
      let (digits, rest) := rest.span isDigit
      match Decimal.nat? digits with
      | some n => some (some (if negative then -(n : Int) else n), rest)
      | none => none
    else some (none, t)
  | [] => some (none, t)

def number (negative : Bool) (t : Text) : Option (Scalar × Text) := do
  let (digits, rest) := t.span isDigit
  if digits.isEmpty || (digits.head? == some '0' && 1 < digits.length) then none
  let (n, excess) := gather 0 digits
  match rest with
  | '.' :: rest =>
    let (places, rest) := rest.span isDigit
    if places.isEmpty then none
    let (n, dropped) := gather n places
    let power : Int := (excess.length : Int) - (places.length - dropped.length : Nat)
    let (e, rest) ← exponent rest
    let r ← power? n (power + e.getD 0)
    return (.real (signed negative r), rest)
  | _ =>
    match ← exponent rest with
    | (none, rest) =>
      if excess.isEmpty then return (whole negative n, rest)
      let r ← power? n excess.length
      return (.real (signed negative r), rest)
    | (some e, rest) =>
      let r ← power? n (excess.length + e)
      return (.real (signed negative r), rest)

mutual

def value (o : Option Text) : (fuel depth : Nat) → Text → Option (Value × Text)
  | 0, _, _ => none
  | fuel + 1, depth, t =>
    match skip t with
    | 'n' :: 'u' :: 'l' :: 'l' :: rest => some (.scalar o .null, rest)
    | 't' :: 'r' :: 'u' :: 'e' :: rest => some (.scalar o (.bool true), rest)
    | 'f' :: 'a' :: 'l' :: 's' :: 'e' :: rest => some (.scalar o (.bool false), rest)
    | '"' :: rest => (string [] rest).map fun (s, rest) => (.scalar o (.text s), rest)
    | '-' :: rest => (number true rest).map fun (s, rest) => (.scalar o s, rest)
    | '[' :: rest =>
      match depth with
      | 0 => none
      | depth + 1 =>
        match skip rest with
        | ']' :: rest => some (.list o [], rest)
        | rest => items o fuel depth [] rest
    | '\x7b' :: rest =>
      match depth with
      | 0 => none
      | depth + 1 =>
        match skip rest with
        | '\x7d' :: rest => some (.table o [], rest)
        | rest => members o fuel depth [] rest
    | rest => (number false rest).map fun (s, rest) => (.scalar o s, rest)

def items (o : Option Text) : (fuel depth : Nat) → List Value → Text → Option (Value × Text)
  | 0, _, _, _ => none
  | fuel + 1, depth, acc, t =>
    match value o fuel depth t with
    | none => none
    | some (v, rest) =>
      match skip rest with
      | ',' :: rest => items o fuel depth (v :: acc) rest
      | ']' :: rest => some (.list o (v :: acc).reverse, rest)
      | _ => none

def members (o : Option Text) :
    (fuel depth : Nat) → List (Text × Value) → Text → Option (Value × Text)
  | 0, _, _, _ => none
  | fuel + 1, depth, acc, t =>
    match skip t with
    | '"' :: rest =>
      match string [] rest with
      | none => none
      | some (name, rest) =>
        match skip rest with
        | ':' :: rest =>
          match value o fuel depth rest with
          | none => none
          | some (v, rest) =>
            match skip rest with
            | ',' :: rest => members o fuel depth (setEntry name v acc) rest
            | '\x7d' :: rest => some (.table o (setEntry name v acc), rest)
            | _ => none
        | _ => none
    | _ => none

end

def read? (origin : Text) (t : Text) : Option Value :=
  match value (some origin) (2 * t.length + 2) 127 t with
  | some (v, rest) => if (skip rest).isEmpty then some v else none
  | none => none

end Courier.Settings.Json
