import Courier.Kafka.Offline
import Courier.Settings.Sources

set_option autoImplicit false

namespace Courier.Terminal

def pathText (path : Bytes) : String := String.ofList (Utf8.lossy path)

def attempt {α : Type} (x : IO α) : ExceptT Files.Trouble IO α :=
  ExceptT.mk do
    match ← x.toBaseIO with
    | .ok a => return .ok a
    | .error e => return .error (.reported (toString e).toList)

def readFile (path : Bytes) : ExceptT Files.Trouble IO Bytes :=
  attempt do return (← IO.FS.readBinFile (pathText path)).toList

def store : Files.Store IO where
  isFile path := do
    match ← readFile path with
    | .ok _ => return true
    | .error _ => return false
  read := readFile
  makeDirectories path := attempt (IO.FS.createDirAll (pathText path))
  write path content := attempt (IO.FS.writeBinFile (pathText path) ⟨content.toArray⟩)

def binding? (entry : String) : Option (Text × Text) :=
  match entry.toList.span (· != '=') with
  | (_, []) => none
  | (name, _ :: value) => some (name, value)

def environment : IO (List (Text × Text)) := do
  match ← readFile (Utf8.encode "/proc/self/environ".toList) with
  | .ok content =>
    let entries := (String.ofList (Utf8.lossy content)).splitOn "\x00"
    return (entries.filterMap binding?).mergeSort fun a b => compare a.1 b.1 != .gt
  | .error _ => return []

def describe : Session.Event → String
  | .reading path => s!"reading {pathText path}"
  | .offered _ => "offered a message"
  | .wrote name a => s!"wrote {a.relationship.name} {String.ofList name}"

def farewell : Session.Exit → Option String
  | .done => none
  | .refused r => some r.message
  | .failed fault => some s!"Error: {fault.text}"

end Courier.Terminal

open Courier Courier.Terminal

def main (arguments : List String) : IO UInt32 := do
  let (exit, journal) ← Session.program store (.standard Settings.Notation.all store)
    (← environment) Kafka.Offline.connect (arguments.map fun a => Utf8.encode a.toList)
  for event in journal do
    IO.println (describe event)
  if let some text := exit.bind farewell then IO.eprintln text
  return (exit.elim 0 Session.Exit.code).toUInt32
