import Courier.Settings
import Courier.Settings.Value

set_option autoImplicit false

/- Loading settings. A loader is what this program does not do itself: it reads files and variables
   of the environment into layers, builds one value from layers, and reads settings out of a value.
   The program lays the variables over the file, says how they are named, and checks what comes of
   it. -/
namespace Courier.Settings

abbrev Layer := List (Text × Value)

structure Naming where
  start : Text
  startSeparator : Text
  separator : Text

def naming : Naming where
  start := "RECORD_PUBLISH".toList
  startSeparator := "_".toList
  separator := "__".toList

structure Loader (m : Type → Type) where
  document : Bytes → ExceptT String m Layer
  environment : Naming → List (Text × Text) → Layer
  build : List Layer → Value
  decode : Value → Except String Settings

inductive LoadFault where
  | refused (note : String)
  | invalid (fault : Invalid)
deriving DecidableEq, Repr

def LoadFault.message : LoadFault → String
  | refused note => note
  | invalid fault => fault.message

namespace Loader

variable {m : Type → Type} [Monad m]

def settings (loader : Loader m) (layers : List Layer) : Except LoadFault Settings := do
  let s ← (loader.decode (loader.build layers)).mapError .refused
  s.validate.mapError .invalid
  return s

def load (loader : Loader m) (env : List (Text × Text)) (path : Bytes) :
    ExceptT LoadFault m Settings := do
  let document ← (loader.document path).adapt .refused
  loader.settings [document, loader.environment naming env]

end Loader

end Courier.Settings
