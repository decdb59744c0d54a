import Logbook.Severity
import Logbook.Sink.LineMode

namespace Logbook

/-- The two standard streams, and the devices of a host by number. -/
inductive Sink where
  | output (mode : LineMode)
  | errors (mode : LineMode)
  | device (number : Nat)
deriving DecidableEq

structure Delivery where
  sink : Sink
  text : String
deriving DecidableEq

namespace Sink

def builtin : Outlet → Sink
  | .log => .output .terminated
  | .diagnostic => .errors .terminated

end Sink

end Logbook
