import Courier.Files.Path
import Courier.Files.Path
import Courier.Text.Utf8
import Std.Data.ExtTreeMap

set_option autoImplicit false

namespace Courier.Files

inductive Node where
  | directory
  | file (content : Bytes)
deriving DecidableEq

structure Disk where
  nodes : Std.ExtTreeMap (List Bytes) Node := ∅
  here : List Bytes := []

namespace Disk

def longestName : Nat := 255

def longestPath : Nat := 4095

def node? (d : Disk) (names : List Bytes) : Option Node :=
  if names.isEmpty then some .directory else d.nodes[names]?

def enter (d : Disk) (directory : List Bytes) (step : Bytes) : Except Trouble (List Bytes) :=
  if step == [dot] then .ok directory
  else if step == up then .ok directory.dropLast
  else if longestName < step.length then .error .nameTooLong
  else
    match d.node? (directory ++ [step]) with
    | some .directory => .ok (directory ++ [step])
    | some (.file _) => .error .notDirectory
    | none => .error .noEntry

inductive Target where
  | directory (names : List Bytes)
  -- A name in a directory, there or not; `closed` where a slash follows it.
  | entry (names : List Bytes) (closed : Bool)

def arrive (directory : List Bytes) (step : Bytes) (closed : Bool) : Except Trouble Target :=
  if step == [dot] then .ok (.directory directory)
  else if step == up then .ok (.directory directory.dropLast)
  else if longestName < step.length then .error .nameTooLong
  else .ok (.entry (directory ++ [step]) closed)

def follow (d : Disk) (path : Bytes) : Except Trouble Target :=
  if path.isEmpty then .error .noEntry
  else if path.contains 0 then .error .zeroOctet
  else if longestPath < path.length then .error .nameTooLong
  else
    let start := if isAbsolute path then [] else d.here
    let way := (parts path).filter (· != [])
    match way.getLast? with
    | none => .ok (.directory start)
    | some last => do
      let directory ← way.dropLast.foldlM d.enter start
      arrive directory last (path.getLast? == some slash)

def find? (d : Disk) (path : Bytes) : Except Trouble Node := do
  match ← d.follow path with
  | .directory _ => return .directory
  | .entry names closed =>
    match d.node? names with
    | none => throw .noEntry
    | some .directory => return .directory
    | some (.file content) => if closed then throw .notDirectory else return .file content

def isDirectory (d : Disk) (path : Bytes) : Bool :=
  match d.find? path with
  | .ok .directory => true
  | _ => false

def isFile (d : Disk) (path : Bytes) : Bool :=
  match d.find? path with
  | .ok (.file _) => true
  | _ => false

def read (d : Disk) (path : Bytes) : Except Trouble Bytes := do
  match ← d.find? path with
  | .directory => throw .isDirectory
  | .file content => return content

def set (d : Disk) (names : List Bytes) (node : Node) : Disk :=
  { d with nodes := d.nodes.insert names node }

def write (d : Disk) (path content : Bytes) : Except Trouble Disk := do
  match ← d.follow path with
  | .directory _ => throw .isDirectory
  | .entry names closed =>
    if closed || d.node? names == some .directory then throw .isDirectory
    else return d.set names (.file content)

def makeDirectory (d : Disk) (path : Bytes) : Except Trouble Disk := do
  match ← d.follow path with
  | .directory _ => throw .alreadyThere
  | .entry names _ =>
    if (d.node? names).isSome then throw .alreadyThere else return d.set names .directory

def ensureDirectory (d : Disk) (path : Bytes) : Except Trouble Disk :=
  match d.makeDirectory path with
  | .ok d => .ok d
  | .error trouble => if d.isDirectory path then .ok d else .error trouble

-- The disk after something that leaves it as it was if it fails.
def settle (d : Disk) : Except Trouble Disk → Except Trouble Unit × Disk
  | .ok d' => (.ok (), d')
  | .error trouble => (.error trouble, d)

-- Makes the first of some directories. Those after it, which lie above, are made only if it
-- cannot be made without them, and what has been made stays.
def makeFirst (d : Disk) : List Bytes → Except Trouble Unit × Disk
  | [] => (.ok (), d)
  | path :: above =>
    if path.isEmpty then (.ok (), d)
    else
      match d.ensureDirectory path with
      | .error .noEntry =>
        match d.makeFirst above with
        | (.ok (), d') => d'.settle (d'.ensureDirectory path)
        | failed => failed
      | result => d.settle result

def makeDirectories (d : Disk) (path : Bytes) : Except Trouble Unit × Disk :=
  d.makeFirst (withAncestors path)

def files (d : Disk) : List (Bytes × Bytes) :=
  d.nodes.toList.filterMap fun (names, node) =>
    match node with
    | .directory => none
    | .file content =>
      if d.here.isPrefixOf names then
        some ([slash].intercalate (names.drop d.here.length), content)
      else
        none

def filesNotIn (d before : Disk) : List (Bytes × Bytes) :=
  d.files.filter fun file => !before.files.contains file

def fresh : Disk :=
  let here := [Utf8.encode "work".toList, Utf8.encode "run".toList]
  ({ here } : Disk).set (here.take 1) .directory |>.set here .directory

def store : Store (StateM Disk) where
  isFile path := return (← get).isFile path
  read path := ExceptT.mk do return (← get).read path
  makeDirectories path := ExceptT.mk (modifyGet (·.makeDirectories path))
  write path content := ExceptT.mk (modifyGet fun d => d.settle (d.write path content))

end Disk

end Courier.Files
