import Courier.Text

set_option autoImplicit false

namespace Courier.Decimal

def write (n : Nat) : Text := Nat.toDigits 10 n

def writeInt (i : Int) : Text :=
  if i < 0 then '-' :: write i.natAbs else write i.natAbs

def digit? (c : Char) : Option Nat :=
  if '0' ≤ c ∧ c ≤ '9' then some (c.toNat - '0'.toNat) else none

def digits? : Nat → Text → Option Nat
  | n, [] => some n
  | n, c :: rest =>
    match digit? c with
    | some d => digits? (n * 10 + d) rest
    | none => none

def nat? : Text → Option Nat
  | [] => none
  | c :: rest => digits? 0 (c :: rest)

def unsigned? : Text → Option Nat
  | '+' :: rest => nat? rest
  | t => nat? t

def upTo? (limit : Nat) (t : Text) : Option Nat :=
  (unsigned? t).filter (· ≤ limit)

def max64 : Nat := 0xFFFFFFFFFFFFFFFF

def half64 : Nat := 0x8000000000000000

def signed64? : Text → Option Int
  | '-' :: rest => ((nat? rest).filter (· ≤ half64)).map fun n => -(n : Int)
  | t => ((unsigned? t).filter (· < half64)).map Int.ofNat

end Courier.Decimal
