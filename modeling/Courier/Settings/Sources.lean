import Courier.Files.Path
import Courier.Settings.Decode
import Courier.Settings.Load
import Courier.Settings.Toml.Document

set_option autoImplicit false

namespace Courier.Settings

structure Notation where
  name : String
  extensions : List Bytes
  read? : Text → Text → Option Value

namespace Notation

def toml : Notation := ⟨"TOML", [Utf8.encode "toml".toList], Toml.read?⟩

def json : Notation := ⟨"JSON", [Utf8.encode "json".toList], Json.read?⟩

def all : List Notation := [toml, json]

end Notation

inductive SourceFault where
  | notFound (name : Text)
  | unknownNotation (name : Text)
  | unreadable (trouble : Files.Trouble)
  | unparsable (origin : Text) (expected : String)
  | noTable (found : String) (origin : Text)
deriving DecidableEq, Repr

def SourceFault.message : SourceFault → String
  | notFound name => s!"configuration file \"{String.ofList name}\" not found"
  | unknownNotation name =>
    s!"configuration file \"{String.ofList name}\" is not of a registered file format"
  | unreadable trouble => trouble.message
  | unparsable origin expected => s!"{expected} expected in {String.ofList origin}"
  | noTable found origin =>
    let place := String.ofList origin
    s!"invalid type: {found}, expected a map in {place} in {place}"

def byteOrderMark : Bytes := [0xEF, 0xBB, 0xBF]

def textOf (content : Bytes) : Text :=
  Utf8.lossy (if byteOrderMark.isPrefixOf content then content.drop 3 else content)

def layerOf (origin : Text) (n : Notation) (content : Bytes) : Except SourceFault Layer :=
  match n.read? origin (textOf content) with
  | none => .error (.unparsable origin n.name)
  | some (.table _ es) => .ok es
  | some v => .error (.noTable v.found origin)

variable {m : Type → Type} [Monad m]

def firstFile (store : Files.Store m) : List (Bytes × Notation) → m (Option (Bytes × Notation))
  | [] => return none
  | (path, n) :: rest => do
    if ← store.isFile path then return some (path, n) else firstFile store rest

def find (known : List Notation) (store : Files.Store m) (path : Bytes) :
    ExceptT SourceFault m (Bytes × Notation) := do
  if ← store.isFile path then
    match (Files.extension? path).bind fun e => known.find? (·.extensions.contains e) with
    | some n => return (path, n)
    | none => throw (.unknownNotation (Utf8.lossy path))
  else
    let others := known.flatMap fun n => n.extensions.filterMap fun e =>
      (Files.withExtension? path e).map (·, n)
    match ← (firstFile store others : m (Option (Bytes × Notation))) with
    | some found => return found
    | none => throw (.notFound (Utf8.lossy path))

def readLayer (known : List Notation) (store : Files.Store m) (path : Bytes) :
    ExceptT SourceFault m Layer := do
  let (path, n) ← find known store path
  let content ← (store.read path).adapt .unreadable
  layerOf (Utf8.lossy path) n content

def Loader.standard (known : List Notation) (store : Files.Store m) : Loader m where
  document path := (readLayer known store path).adapt SourceFault.message
  environment := ofEnvironment
  build := Value.build
  decode v := (Settings.decode v).mapError Misfit.message

end Courier.Settings
