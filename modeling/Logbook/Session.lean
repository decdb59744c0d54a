import Logbook.Encoding
import Logbook.Session.Report

namespace Logbook

structure Session where
  host : Host := {}
  sinks : List (String × Sink) := []
  loggers : List (String × Logger) := []

namespace Session

def forget {α : Type} (name : String) (names : List (String × α)) : List (String × α) :=
  names.filter fun entry => entry.1 != name

def assign {α : Type} (name : String) (a : α) (names : List (String × α)) : List (String × α) :=
  (name, a) :: forget name names

def withLogger (s : Session) (name : String) (l : Logger) : Session :=
  { s with loggers := assign name l s.loggers }

/-- Keeps a logger under a name. The ambient logger has none and stays. -/
def keep (s : Session) (l : Logger) : Place → Session
  | .named name => s.withLogger name l
  | _ => s

def dropLogger (s : Session) : Place → Session
  | .named name => { s with loggers := forget name s.loggers }
  | _ => s

def logger? (s : Session) : Place → Option Logger
  | .ambient => some s.host.ambient
  | .borrowed => some s.host.ambient
  | .named name => s.loggers.lookup name

def standing (s : Session) (place : Place) : Standing :=
  (s.logger? place).map Logger.backlog

def settled {α : Type} (s : Session) (o : Outcome α) (result : α → Result) : Session × Result :=
  match o with
  | .done h a => ({ s with host := h }, result a)
  | .panicked h => ({ s with host := h }, .panicked)

def call (s : Session) (place : Place) (c : Call) : Session × Result :=
  match place with
  | .ambient => s.settled (s.host.request (.call c)) .reply
  | .borrowed => s.settled (s.host.borrowedCall c) .reply
  | .named name =>
    match s.loggers.lookup name with
    | none => (s, .unknown)
    | some l =>
      let p := l.perform c
      (s.withLogger name p.logger).settled (s.host.settle p) .reply

def callAll (place : Place) : List Call → Session → Session × Result
  | [], s => (s, .ok)
  | c :: rest, s =>
    match s.call place c with
    | (s, .reply _) => callAll place rest s
    | other => other

def withSettings (s : Session) (settings : Settings String)
    (next : Settings Sink → Session × Result) : Session × Result :=
  match settings.resolve? fun name => s.sinks.lookup name with
  | none => (s, .unknown)
  | some settings => next settings

def addSink (s : Session) (name : String) : NewSink → Session
  | .device d =>
    { s with
      host := { s.host with devices := s.host.devices ++ [d] }
      sinks := assign name (.device s.host.devices.length) s.sinks }
  | .output mode => { s with sinks := assign name (.output mode) s.sinks }
  | .errors mode => { s with sinks := assign name (.errors mode) s.sinks }

def onLines (s : Session) (number : Nat) (lines : List String) :
    SinkAction → Session × Result
  | .lines => (s, .texts lines)
  | .take => ({ s with host := s.host.onDevice number fun _ => .collecting [] }, .texts lines)
  | .last => (s, .text lines.getLast?)
  | .length => (s, .number lines.length)
  | .isEmpty => (s, .flag lines.isEmpty)
  | .clear => ({ s with host := s.host.onDevice number fun _ => .collecting [] }, .ok)
  | _ => (s, .unknown)

def onWriter (s : Session) (number : Nat) (w : Writer) : SinkAction → Session × Result
  | .write text =>
    let (w, result) := w.writeText text
    ({ s with host := s.host.onDevice number fun _ => .writer w }, .written result)
  | .flush => (s, .written w.flush)
  | .mode => (s, .flag w.mode.terminates)
  | .outline pretty => (s, .outline (w.outline.render pretty))
  | _ => (s, .unknown)

def onSink (s : Session) (sink : Sink) (action : SinkAction) : Session × Result :=
  match action, sink with
  | .accept text, _ => s.settled (s.host.deliver [⟨sink, text⟩]) fun _ => .ok
  | _, .device number =>
    match s.host.devices[number]? with
    | some (.collecting lines) => s.onLines number lines action
    | some (.writer w) => s.onWriter number w action
    | _ => (s, .unknown)
  | _, _ => (s, .unknown)

def view (s : Session) (l : Logger) : View → Result
  | .messages newestFirst =>
    .messages (if newestFirst then l.backlog.entries.reverse else l.backlog.entries)
  | .backlog => .backlog l.backlog
  | .sameBacklog other =>
    match s.logger? other with
    | none => .unknown
    | some m => .flag (l.backlog == m.backlog)
  | .rendered context => .texts (l.backlog.entries.map (Entry.render · context))
  | .entries => .entries l.backlog.entries
  | .overview => .overview l
  | .outline pretty => .outline (l.outline.render pretty)

/-- Hands a text to the sink that a logger has for an outlet. No logger is borrowed meanwhile. -/
def acceptAt (s : Session) (place : Place) (outlet : Outlet) (text : String) : Session × Result :=
  match s.logger? place with
  | none => (s, .unknown)
  | some l => s.settled (s.host.deliver [⟨l.sinkOf outlet, text⟩]) fun _ => .ok

def act (s : Session) (place : Place) : Action → Session × Result
  | .newSink name sink => (s.addSink name sink, .ok)
  | .sink name action =>
    match s.sinks.lookup name with
    | none => (s, .unknown)
    | some sink => s.onSink sink action
  | .create => (s.keep .initial place, .ok)
  | .build settings =>
    s.withSettings settings fun settings =>
      let p := Logger.ofSettings settings
      (s.keep p.logger place).settled (s.host.settle p) fun r => .reply (.configured r)
  | .drop => (s.dropLogger place, .ok)
  | .configure settings =>
    s.withSettings settings fun settings => s.call place (.configure settings)
  | .start settings => s.withSettings settings fun settings => s.call place (.start settings)
  | .load json =>
    match (Json.Value.read? json).bind HostSettings.ofJson? with
    | none => (s, .undecodable)
    | some settings => s.call place (.configure settings.toSettings)
  | .call c => s.call place c
  | .logEach severity messages =>
    callAll place (messages.map fun message => .log severity none message) s
  | .request r => s.settled (s.host.request r) .reply
  | .view v =>
    match s.logger? place with
    | none => (s, .unknown)
    | some l => (s, s.view l v)
  | .accept outlet text => s.acceptAt place outlet text
  | .raise event => s.settled (s.host.raise event) fun _ => .ok
  | .setFilter filter => ({ s with host := { s.host with filter := filter } }, .ok)
  | .subscribe => s.settled s.host.subscribe fun _ => .ok

def received (s : Session) (before : List Device) : List (String × Received) :=
  (s.sinks.filterMap fun (name, sink) =>
    match sink with
    | .device number =>
      s.host.devices[number]?.map fun d => (name, Received.since before[number]? d)
    | _ => none).filter fun entry => !entry.2.isEmpty

def effects (s : Session) (before : List Device) : Effects where
  sinks := s.received before
  output := s.host.output
  errors := s.host.errors
  notices := s.host.notices

def read (s : Session) : Session :=
  { s with host := { s.host with output := "", errors := "", notices := [] } }

mutual

def runStep (s : Session) : Step → Session × Report
  | .act place action =>
    let (t, result) := s.act place action
    let standing := if action.isOnSink then none else some (t.standing place)
    (t.read, .act result standing (t.effects s.host.devices))
  | .thread place steps =>
    let (t, reports) := run { s with host := { s.host with ambient := .initial } } steps
    let t := { t with host := { t.host with ambient := s.host.ambient } }
    (t, .thread reports (t.standing place))

def run (s : Session) : List Step → Session × List Report
  | [] => (s, [])
  | step :: rest =>
    let (s, report) := s.runStep step
    let (s, reports) := s.run rest
    (s, report :: reports)

end

end Session

end Logbook
