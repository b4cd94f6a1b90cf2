import Courier.Text

set_option autoImplicit false

namespace Courier.Files

def slash : UInt8 := 0x2F
def dot : UInt8 := 0x2E

def parts : Bytes → List Bytes
  | [] => [[]]
  | b :: rest =>
    if b == slash then [] :: parts rest
    else
      match parts rest with
      | part :: more => (b :: part) :: more
      | [] => [[b]]

def isAbsolute (path : Bytes) : Bool := path.head? == some slash

def steps (path : Bytes) : List Bytes :=
  (parts path).filter fun part => part != [] && part != [dot]

def up : Bytes := [dot, dot]

def name? (path : Bytes) : Option Bytes :=
  (steps path).getLast?.filter (· != up)

def ofSteps (absolute : Bool) (names : List Bytes) : Bytes :=
  if absolute then slash :: [slash].intercalate names else [slash].intercalate names

def join (directory path : Bytes) : Bytes :=
  if isAbsolute path || directory.isEmpty then path
  else if directory.getLast? == some slash then directory ++ path
  else directory ++ slash :: path

def withAncestors (path : Bytes) : List Bytes :=
  let names := steps path
  path :: (List.range names.length).reverse.map fun n => ofSteps (isAbsolute path) (names.take n)

def splitExtension (name : Bytes) : Bytes × Option Bytes :=
  match name.reverse.span (· != dot) with
  | (_, []) => (name, none)
  | (ending, _ :: stem) =>
    if stem.isEmpty then (name, none) else (stem.reverse, some ending.reverse)

def extension? (path : Bytes) : Option Bytes := (name? path).bind fun n => (splitExtension n).2

def withExtension? (path extension : Bytes) : Option Bytes :=
  (name? path).map fun name =>
    ofSteps (isAbsolute path) ((steps path).dropLast ++ [name ++ dot :: extension])

inductive Trouble where
  | noEntry
  | alreadyThere
  | notDirectory
  | isDirectory
  | nameTooLong
  | zeroOctet
  | reported (note : Text)
deriving DecidableEq, Repr

def Trouble.message : Trouble → String
  | .noEntry => "No such file or directory (os error 2)"
  | .alreadyThere => "File exists (os error 17)"
  | .notDirectory => "Not a directory (os error 20)"
  | .isDirectory => "Is a directory (os error 21)"
  | .nameTooLong => "File name too long (os error 36)"
  | .zeroOctet => "file name contained an unexpected NUL byte"
  | .reported note => String.ofList note

structure Store (m : Type → Type) where
  isFile : Bytes → m Bool
  read : Bytes → ExceptT Trouble m Bytes
  makeDirectories : Bytes → ExceptT Trouble m Unit
  write : Bytes → Bytes → ExceptT Trouble m Unit

end Courier.Files
