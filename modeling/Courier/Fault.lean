import Courier.Files.Names
import Courier.Kafka.Properties
import Courier.Publish.Drive
import Courier.Settings.Load

set_option autoImplicit false

namespace Courier

inductive Fault where
  | invalid (fault : Settings.Invalid)
  | settings (fault : Settings.LoadFault)
  | nameless (fault : Files.Nameless)
  | files (trouble : Files.Trouble)
  | setup (fault : Kafka.SetupFault)
  | refused (fault : Publisher.Refusal)
  | malformed (fault : Malformed)
  | unwritable (fault : Unwritable)
  | reported (report : Report)
  | overrun (fault : Overrun)
deriving DecidableEq

namespace Fault

def kind : Fault → Kind
  | invalid _ => .config
  | settings _ => .config
  | nameless _ => .config
  | files _ => .io
  | setup _ => .kafka
  | refused _ => .config
  | malformed _ => .malformedInput
  | unwritable _ => .serialization
  | reported report => report.kind
  | overrun _ => .timeout

def message : Fault → String
  | invalid fault => fault.message
  | settings fault => fault.message
  | nameless fault => fault.message
  | files trouble => trouble.message
  | setup fault => fault.message
  | refused fault => fault.message
  | malformed fault => fault.message
  | unwritable fault => fault.message
  | reported report => String.ofList report.note
  | overrun fault => fault.message

def ofUnopened : Files.Unopened → Fault
  | .trouble t => files t
  | .nameless n => nameless n

def text (f : Fault) : String := f.kind.label ++ f.message

end Fault

end Courier
