import Courier.Files.Path
import Courier.Publish.Batch
import Courier.Text.Decimal
import Courier.Text.Shown

set_option autoImplicit false

namespace Courier.Files

structure Nameless where
  path : Bytes
deriving DecidableEq, Repr

def Nameless.message (n : Nameless) : String :=
  s!"input {String.ofList (Text.shownPath n.path)} has no file name"

def nameOf (path : Bytes) : Except Nameless Text :=
  match name? path with
  | some name => .ok (Utf8.lossy name)
  | none => .error ⟨path⟩

def numbered (k : Nat) (name : Text) : Text := Decimal.write k ++ '-' :: name

-- The first numbered name that is not taken, from the number `k` on and `stride` by `stride`;
-- among more numbers than names are taken there is one.
def firstFree (taken : List Text) (stride : Nat) (name : Text) : (tries k : Nat) → Text
  | 0, k => numbered k name
  | tries + 1, k =>
    if taken.contains (numbered k name) then firstFree taken stride name tries (k + stride)
    else numbered k name

def freeName (taken : List Text) (stride k : Nat) (name : Text) : Text :=
  if taken.contains name then firstFree taken stride name taken.length k else name

def namesFrom (count : Nat) (taken : List Text) :
    (k : Nat) → List Bytes → Except Nameless (List Text)
  | _, [] => .ok []
  | k, path :: paths => do
    let name := freeName taken count k (← nameOf path)
    return name :: (← namesFrom count (name :: taken) (k + 1) paths)

def artifactNames (paths : List Bytes) : Except Nameless (List Text) :=
  namesFrom paths.length [] 0 paths

inductive Unopened where
  | trouble (t : Trouble)
  | nameless (n : Nameless)
deriving DecidableEq, Repr

def inputOf (path content : Bytes) : Except Nameless Input :=
  (nameOf path).map fun name =>
    { content, attributes := Std.ExtTreeMap.ofList
        [("filename".toList, name), ("path".toList, Utf8.lossy path)] }

def readInput {m : Type → Type} [Monad m] (store : Store m) (path : Bytes) :
    ExceptT Unopened m Input := do
  let content ← (store.read path).adapt .trouble
  (inputOf path content).mapError Unopened.nameless

end Courier.Files
