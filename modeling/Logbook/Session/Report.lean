import Logbook.Session.Step

namespace Logbook.Session

inductive Result where
  | ok
  | panicked
  | unknown
  | undecodable
  | reply (r : Reply)
  | written (result : Except WriteFault Unit)
  | texts (texts : List String)
  | text (text : Option String)
  | number (n : Nat)
  | flag (b : Bool)
  | outline (text : String)
  | messages (entries : List Entry)
  | entries (entries : List Entry)
  | backlog (b : Backlog Entry)
  | overview (l : Logger)

inductive Received where
  | texts (texts : List String)
  | bytes (bytes : List UInt8)

namespace Received

def ofDevice : Device → Received
  | .collecting lines => texts lines
  | .writer w => bytes w.written
  | .callback lines _ => texts lines
  | .instrumented lines _ => texts lines

def isEmpty : Received → Bool
  | texts ts => ts.isEmpty
  | bytes bs => bs.isEmpty

def since (before : Option Device) (d : Device) : Received :=
  match ofDevice d, before.map ofDevice with
  | texts ts, some (texts earlier) => texts (ts.drop earlier.length)
  | bytes bs, some (bytes earlier) => bytes (bs.drop earlier.length)
  | all, _ => all

end Received

/-- The backlog that a step on a logger leaves, or nothing where there is no such logger. -/
abbrev Standing := Option (Backlog Entry)

structure Effects where
  sinks : List (String × Received)
  output : String
  errors : String
  notices : List Notice

/-- The standing is left out of steps on sinks. What the steps of a thread did is told by their own
reports. -/
inductive Report where
  | act (result : Result) (standing : Option Standing) (effects : Effects)
  | thread (reports : List Report) (standing : Standing)

end Logbook.Session
