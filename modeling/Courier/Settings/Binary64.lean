import Courier.Text.Decimal

set_option autoImplicit false

namespace Courier.Settings

inductive Binary64 where
  | finite (negative : Bool) (mantissa : Nat) (exponent : Int)
  | infinite (negative : Bool)
  | nan
deriving DecidableEq, Repr

namespace Binary64

def divideEven (num den : Nat) : Nat :=
  let q := num / den
  let twice := 2 * (num % den)
  if twice < den then q
  else if den < twice then q + 1
  else q + q % 2

def scaled (num den : Nat) (power : Int) : Nat × Nat :=
  if 0 ≤ power then (num * Nat.pow 2 power.toNat, den) else (num, den * Nat.pow 2 (-power).toNat)

def ofFraction (negative : Bool) (num den : Nat) : Binary64 :=
  if num == 0 then .finite negative 0 0
  else
    -- One of these two exponents gives a mantissa of 53 bits.
    let guess : Int := (Nat.log2 num : Int) - (Nat.log2 den : Int) - 53
    let fits (e : Int) : Bool :=
      let (n, d) := scaled num den (-e)
      n < d * 0x20000000000000
    let e := if fits guess then guess else guess + 1
    let e := if fits e then e else e + 1
    let e := max e (-1074)
    let (n, d) := scaled num den (-e)
    let m := divideEven n d
    let (m, e) := if m == 0x20000000000000 then (0x10000000000000, e + 1) else (m, e)
    if 971 < e then .infinite negative else .finite negative m e

def ofDecimal (negative : Bool) (digits : Nat) (power : Int) : Binary64 :=
  let size : Int := (Decimal.write digits).length + power
  if digits == 0 || size < -400 then .finite negative 0 0
  else if 400 < size then .infinite negative
  else if 0 ≤ power then ofFraction negative (digits * Nat.pow 10 power.toNat) 1
  else ofFraction negative digits (Nat.pow 10 (-power).toNat)

def fraction (mantissa : Nat) (exponent : Int) : Nat × Nat := scaled mantissa 1 exponent

def isZero : Binary64 → Bool
  | .finite _ m _ => m == 0
  | _ => false

def negate : Binary64 → Binary64
  | .finite s m e => .finite (!s) m e
  | .infinite s => .infinite (!s)
  | .nan => .nan

def multiply : Binary64 → Binary64 → Binary64
  | .finite _ m e, .finite _ m' e' =>
    let (n, d) := fraction m e
    let (n', d') := fraction m' e'
    ofFraction false (n * n') (d * d')
  | _, _ => .nan

def divide : Binary64 → Binary64 → Binary64
  | .finite _ m e, .finite _ m' e' =>
    let (n, d) := fraction m e
    let (n', d') := fraction m' e'
    ofFraction false (n * d') (d * n')
  | _, _ => .nan

def toInt (lo hi : Int) : Binary64 → Int
  | .finite negative m e =>
    let (n, d) := fraction m e
    let r : Int := ((2 * n + d) / (2 * d) : Nat)
    max lo (min hi (if negative then -r else r))
  | .infinite negative => if negative then lo else hi
  | .nan => 0

def tenAbove (num den : Nat) : (fuel : Nat) → (power : Int) → Int
  | 0, power => power
  | fuel + 1, power =>
    let (n, d) := if 0 ≤ power then (num, den * Nat.pow 10 power.toNat)
      else (num * Nat.pow 10 (-power).toNat, den)
    if n < d then power else tenAbove num den fuel (power + 1)

-- A decimal of `count` digits in the interval of numbers that round to `m * 2 ^ e`: of the two
-- neighbours of the number on that grid the nearer one, of two equally near the greater. The digits
-- come with the power of ten of the last.
def onGrid? (m : Nat) (e : Int) (above : Int) (count : Nat) : Option (Nat × Int) :=
  let power : Int := above - count
  -- All in units of a quarter of the last place, over a common denominator.
  let (unitN, unitD) := scaled 1 4 e
  let (n, d) := (4 * m * unitN, unitD)
  let lowN := (4 * m - (if m == 0x10000000000000 && -1074 < e then 1 else 2)) * unitN
  let highN := (4 * m + 2) * unitN
  let (n, lowN, highN, d) :=
    if 0 ≤ power then (n, lowN, highN, d * Nat.pow 10 power.toNat)
    else
      let t := Nat.pow 10 (-power).toNat
      (n * t, lowN * t, highN * t, d)
  let inside (k : Nat) : Bool :=
    if m % 2 == 0 then lowN ≤ k * d && k * d ≤ highN else lowN < k * d && k * d < highN
  let down := n / d
  let up := down + 1
  let downFirst := 2 * (n % d) < d
  if n % d == 0 then some (down, power)
  else
    match inside down, inside up with
    | true, true => some (if downFirst then down else up, power)
    | true, false => some (down, power)
    | false, true => some (up, power)
    | false, false => none

def shortest (m : Nat) (e : Int) : Nat × Int :=
  let (n, d) := fraction m e
  let above := tenAbove n d 700 (-330)
  ((List.range 17).firstM fun i => onGrid? m e above (i + 1)).getD (m, e)

def positional (digits : Text) (power : Int) : Text :=
  if 0 ≤ power then digits ++ List.replicate power.toNat '0'
  else
    let places := (-power).toNat
    let padded := List.replicate (places + 1 - digits.length) '0' ++ digits
    let (whole, rest) := padded.splitAt (padded.length - places)
    whole ++ '.' :: rest

def dropZeros (digits : Nat) (power : Int) : (fuel : Nat) → Nat × Int
  | 0 => (digits, power)
  | fuel + 1 =>
    if digits % 10 == 0 then dropZeros (digits / 10) (power + 1) fuel else (digits, power)

def toText : Binary64 → Text
  | .finite negative m e =>
    let sign := if negative then ['-'] else []
    if m == 0 then sign ++ ['0']
    else
      let (digits, power) := shortest m e
      let (digits, power) := dropZeros digits power 20
      sign ++ positional (Decimal.write digits) power
  | .infinite negative => if negative then "-inf".toList else "inf".toList
  | .nan => "NaN".toList

def toTextWithPoint (r : Binary64) : Text :=
  let t := r.toText
  match r with
  | .finite .. => if t.contains '.' then t else t ++ ['.', '0']
  | _ => t

end Binary64

end Courier.Settings
