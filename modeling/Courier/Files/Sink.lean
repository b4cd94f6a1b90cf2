import Courier.Artifact
import Courier.Files.Path
import Courier.Text.Utf8

set_option autoImplicit false

namespace Courier.Files

def sidecarEnding : Text := ".attributes.json".toList

structure Sink where
  root : Bytes
  describe : Attributes → Text

namespace Sink

def directory (s : Sink) (r : Relationship) : Bytes := join s.root (Utf8.encode r.name.toList)

def contentPath (s : Sink) (r : Relationship) (name : Text) : Bytes :=
  join (s.directory r) (Utf8.encode name)

def sidecarPath (s : Sink) (r : Relationship) (name : Text) : Bytes :=
  s.contentPath r (name ++ sidecarEnding)

def write {m : Type → Type} [Monad m] (s : Sink) (store : Store m) (name : Text) (a : Artifact) :
    ExceptT Trouble m Bytes := do
  store.makeDirectories (s.directory a.relationship)
  store.write (s.contentPath a.relationship name) a.content
  store.write (s.sidecarPath a.relationship name) (Utf8.encode (s.describe a.attributes))
  return s.contentPath a.relationship name

end Sink

namespace Sidecar

def control (c : Char) : Text :=
  let n := c.toNat
  ['\\', 'u', '0', '0', Nat.digitChar (n / 16), Nat.digitChar (n % 16)]

def escape (c : Char) : Text :=
  if c == '"' then ['\\', '"']
  else if c == '\\' then ['\\', '\\']
  else if c == '\x08' then ['\\', 'b']
  else if c == '\x0c' then ['\\', 'f']
  else if c == '\n' then ['\\', 'n']
  else if c == '\r' then ['\\', 'r']
  else if c == '\t' then ['\\', 't']
  else if c.toNat < 0x20 then control c
  else [c]

def quoted (t : Text) : Text := '"' :: t.flatMap escape ++ ['"']

def member (entry : Text × Text) : Text :=
  "  ".toList ++ quoted entry.1 ++ ": ".toList ++ quoted entry.2

def write (a : Attributes) : Text :=
  if a.isEmpty then "\x7b\x7d".toList
  else "\x7b\n".toList ++ ",\n".toList.intercalate (a.toList.map member) ++ "\n\x7d".toList

end Sidecar

end Courier.Files
