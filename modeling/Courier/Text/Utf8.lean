import Courier.Text

set_option autoImplicit false

/- UTF-8. An octet string is cut into pieces: characters, ill-formed stretches, and a sequence that
   the end of the string breaks off. An ill-formed stretch is the longest start of a well-formed
   sequence, or one octet where no sequence starts. `decode` insists on characters only and says
   where the first other piece begins; `lossy` puts U+FFFD for every other piece. -/
namespace Courier.Utf8

def encode (t : Text) : Bytes := t.flatMap String.utf8EncodeChar

inductive Piece where
  | char (c : Char) (width : Nat)
  | bad (octets : Bytes)
  | cut (octets : Bytes)
deriving DecidableEq

def within (lo hi b : UInt8) : Bool := lo ≤ b && b ≤ hi

def isTail (b : UInt8) : Bool := within 0x80 0xBF b

def isSecond (first b : UInt8) : Bool :=
  if first == 0xE0 then within 0xA0 0xBF b
  else if first == 0xED then within 0x80 0x9F b
  else if first == 0xF0 then within 0x90 0xBF b
  else if first == 0xF4 then within 0x80 0x8F b
  else isTail b

def width (b : UInt8) : Nat :=
  if b < 0x80 then 1
  else if within 0xC2 0xDF b then 2
  else if within 0xE0 0xEF b then 3
  else if within 0xF0 0xF4 b then 4
  else 0

def low (b : UInt8) : Nat := b.toNat % 64

def piecesFrom (acc : List Piece) : Bytes → List Piece
  | [] => acc
  | a :: s =>
    match width a with
    | 1 => piecesFrom (.char (Char.ofNat a.toNat) 1 :: acc) s
    | 2 =>
      match s with
      | [] => .cut [a] :: acc
      | b :: s' =>
        if isTail b then piecesFrom (.char (Char.ofNat (a.toNat % 32 * 64 + low b)) 2 :: acc) s'
        else piecesFrom (.bad [a] :: acc) (b :: s')
    | 3 =>
      match s with
      | [] => .cut [a] :: acc
      | b :: s' =>
        if isSecond a b then
          match s' with
          | [] => .cut [a, b] :: acc
          | c :: s'' =>
            if isTail c then
              piecesFrom
                (.char (Char.ofNat ((a.toNat % 16 * 64 + low b) * 64 + low c)) 3 :: acc) s''
            else piecesFrom (.bad [a, b] :: acc) (c :: s'')
        else piecesFrom (.bad [a] :: acc) (b :: s')
    | 4 =>
      match s with
      | [] => .cut [a] :: acc
      | b :: s' =>
        if isSecond a b then
          match s' with
          | [] => .cut [a, b] :: acc
          | c :: s'' =>
            if isTail c then
              match s'' with
              | [] => .cut [a, b, c] :: acc
              | d :: s''' =>
                if isTail d then
                  piecesFrom
                    (.char (Char.ofNat
                      (((a.toNat % 8 * 64 + low b) * 64 + low c) * 64 + low d)) 4 :: acc) s'''
                else piecesFrom (.bad [a, b, c] :: acc) (d :: s''')
            else piecesFrom (.bad [a, b] :: acc) (c :: s'')
        else piecesFrom (.bad [a] :: acc) (b :: s')
    | _ => piecesFrom (.bad [a] :: acc) s

def pieces (s : Bytes) : List Piece := (piecesFrom [] s).reverse

-- Why octets are not text: where the first piece that is no character begins, and its length
-- unless the end of the string breaks it off.
inductive Fault where
  | bad (width index : Nat)
  | cut (index : Nat)
deriving DecidableEq, Repr

def Fault.message : Fault → String
  | .bad width index => s!"invalid utf-8 sequence of {width} bytes from index {index}"
  | .cut index => s!"incomplete utf-8 byte sequence from index {index}"

def collect (index : Nat) (acc : Text) : List Piece → Except Fault Text
  | [] => .ok acc.reverse
  | .char c width :: rest => collect (index + width) (c :: acc) rest
  | .bad octets :: _ => .error (.bad octets.length index)
  | .cut _ :: _ => .error (.cut index)

def decode (s : Bytes) : Except Fault Text := collect 0 [] (pieces s)

def Piece.lossy : Piece → Char
  | .char c _ => c
  | .bad _ => '\uFFFD'
  | .cut _ => '\uFFFD'

def lossy (s : Bytes) : Text := (pieces s).map Piece.lossy

end Courier.Utf8
