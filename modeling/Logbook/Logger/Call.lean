import Logbook.Logger.Configuration

namespace Logbook

/-- `configure` applies settings as they are and `start` without a backlog. -/
inductive Call where
  | log (severity : Severity) (origin : Option String) (message : String)
  | emit (count : Nat) (context : Bool)
  | pop
  | popInto (buffer : Option (List UInt8)) (context : Bool)
  | drain
  | discard
  | configure (settings : Settings Sink)
  | start (settings : Settings Sink)
  | count
  | capacity

inductive Reply where
  | nothing
  | number (n : Nat)
  | popped (entry : Option Entry)
  | copied (result : Except BufferFault Logger.Copied)
  | drained (texts : List String)
  | configured (result : Except ConfigFault Unit)

namespace Performance

def map {α β : Type} (f : α → β) (p : Performance α) : Performance β :=
  { p with value := f p.value }

end Performance

namespace Logger

def perform (l : Logger) : Call → Performance Reply
  | .log severity origin message => (l.log severity origin message).map fun _ => .nothing
  | .emit count context => (l.emit count context).map .number
  | .pop => l.pop.map .popped
  | .popInto buffer context => (l.popInto buffer context).map .copied
  | .drain => l.drain.map .drained
  | .discard => l.discard.map .number
  | .configure settings => (l.configure settings).map .configured
  | .start settings => (l.start settings).map .configured
  | .count => { value := .number l.backlog.size, logger := l }
  | .capacity => { value := .number l.backlog.capacity, logger := l }

def run (l : Logger) : List Call → Performance (List Reply)
  | [] => { value := [], logger := l }
  | c :: rest =>
    let first := l.perform c
    let others := run first.logger rest
    { value := first.value :: others.value
      logger := others.logger
      deliveries := first.deliveries ++ others.deliveries
      notices := first.notices ++ others.notices }

end Logger

end Logbook
