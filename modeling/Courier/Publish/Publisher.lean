import Courier.Publish.Batch
import Courier.Settings

set_option autoImplicit false

namespace Courier

structure Publisher where
  settings : PublishSettings
  format : Format
  key : KeyRule

namespace Publisher

inductive Refusal where
  | invalid (fault : Settings.Invalid)
  | noRuntime
deriving DecidableEq, Repr

def Refusal.message : Refusal → String
  | .invalid fault => fault.message
  | .noRuntime =>
    "record publisher requires a tokio runtime: there is no reactor running, " ++
      "must be called from the context of a Tokio 1.x runtime"

def make (settings : PublishSettings) (format : Format) (hasRuntime : Bool := true) :
    Except Refusal Publisher := do
  settings.validate.mapError .invalid
  format.validate.mapError .invalid
  if !hasRuntime then throw .noRuntime
  let key ← (KeyRule.ofSchema format.schema settings.keyFields).mapError (.invalid ∘ .keyField)
  return { settings, format, key }

def read (p : Publisher) (content : Bytes) : List Record × Option Unreadable :=
  match p.format.parse p.key content with
  | .ok [] => ([], some .empty)
  | .ok records => (records, none)
  | .error fault => ([], some (.malformed fault))

def tracker (p : Publisher) (attributes : Attributes) : Tracker :=
  .new p.format p.settings.topic (p.settings.propertiesOf attributes) p.settings.ceiling

-- Opens a batch. An input without records makes one too; it fails as a whole.
def openBatch (p : Publisher) (input : Input) : Batch :=
  let (records, unreadable) := p.read input.content
  .new input records unreadable (p.tracker input.attributes)

end Publisher

end Courier
