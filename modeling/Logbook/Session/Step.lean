import Logbook.Host

namespace Logbook.Session

/-- The ambient logger through requests, the ambient logger while it is borrowed, or a logger of its
own by name. -/
inductive Place where
  | ambient
  | borrowed
  | named (name : String)

inductive NewSink where
  | device (d : Device)
  | output (mode : LineMode)
  | errors (mode : LineMode)

/-- Lines can be asked of collecting sinks only, and writing only of writers. -/
inductive SinkAction where
  | accept (text : String)
  | lines
  | take
  | last
  | length
  | isEmpty
  | clear
  | write (text : String)
  | flush
  | mode
  | outline (pretty : Bool)

inductive View where
  | messages (newestFirst : Bool)
  | backlog
  | sameBacklog (other : Place)
  | rendered (context : Bool)
  | entries
  | overview
  | outline (pretty : Bool)

/-- In settings, sinks are given by name. `request` always asks the ambient logger. -/
inductive Action where
  | newSink (name : String) (sink : NewSink)
  | sink (name : String) (action : SinkAction)
  | create
  | build (settings : Settings String)
  | drop
  | configure (settings : Settings String)
  | start (settings : Settings String)
  | load (json : String)
  | call (c : Call)
  | logEach (severity : Severity) (messages : List String)
  | request (r : Request)
  | view (v : View)
  | accept (outlet : Outlet) (text : String)
  | raise (event : Tracing.Event)
  | setFilter (filter : Tracing.Filter)
  | subscribe

def Action.isOnSink : Action → Bool
  | newSink _ _ => true
  | sink _ _ => true
  | _ => false

/-- A thread has an ambient logger of its own and shares everything else. -/
inductive Step where
  | act (place : Place) (action : Action)
  | thread (place : Place) (steps : List Step)

end Logbook.Session
