import Logbook.Backlog
import Logbook.DiagnosticPrefix
import Logbook.Entry
import Logbook.Fault
import Logbook.Notice
import Logbook.Settings
import Logbook.Sink
import Logbook.Text.Cut
import Logbook.Text.Lines

/-!
A logger: a sink and a prefix for each outlet, and a backlog of messages that wait. Every operation
first changes the logger and only then hands out deliveries, so an operation is a pure function
that returns the changed logger beside the deliveries that are left to make.
-/

namespace Logbook

structure Logger where
  logSink : Sink
  logPrefix : String
  diagnosticSink : Sink
  diagnosticPrefix : DiagnosticPrefix
  retention : Retention
  backlog : Backlog Entry
deriving DecidableEq

structure Performance (α : Type) where
  value : α
  logger : Logger
  deliveries : List Delivery := []
  notices : List Notice := []

namespace Logger

def initial : Logger where
  logSink := .builtin .log
  logPrefix := ""
  diagnosticSink := .builtin .diagnostic
  diagnosticPrefix := .bySeverity
  retention := .diagnosticsOnly
  backlog := .disabled

def prefixFor (l : Logger) (s : Severity) : String :=
  match s.outlet with
  | .log => l.logPrefix
  | .diagnostic => l.diagnosticPrefix.textFor s

def sinkOf (l : Logger) : Outlet → Sink
  | .log => l.logSink
  | .diagnostic => l.diagnosticSink

def sinkFor (l : Logger) (s : Severity) : Sink :=
  l.sinkOf s.outlet

/-- The message behind its prefix. Only the message is cut. -/
def format (l : Logger) (s : Severity) (message : String) : String :=
  l.prefixFor s ++ Text.cut message textLimit

def keeps (l : Logger) (s : Severity) : Bool :=
  l.backlog.isEnabled && l.retention.keeps s

def log (l : Logger) (s : Severity) (origin : Option String) (message : String) :
    Performance Unit :=
  let text := l.format s message
  if l.keeps s then
    let (evicted, backlog) := l.backlog.push ⟨s, origin, text⟩
    { value := ()
      logger := { l with backlog := backlog }
      notices := if evicted.isEmpty then [] else [.evicted evicted.length backlog.capacity] }
  else
    { value := (), logger := l, deliveries := [⟨l.sinkFor s, text⟩] }

def emission (l : Logger) (context : Bool) (e : Entry) : Delivery :=
  ⟨l.sinkFor e.severity, e.render context⟩

def emit (l : Logger) (count : Nat) (context : Bool) : Performance Nat :=
  let (taken, backlog) := l.backlog.takeOldest count
  { value := taken.length
    logger := { l with backlog := backlog }
    deliveries := taken.map (l.emission context)
    notices := if taken.isEmpty then [] else [.drained .emit taken.length backlog.size] }

def pop (l : Logger) : Performance (Option Entry) :=
  match l.backlog.popNewest with
  | none => { value := none, logger := l }
  | some (e, backlog) =>
    { value := some e
      logger := { l with backlog := backlog }
      notices := [.drained .pop 1 backlog.size] }

/-- What was copied: how many bytes, and the whole buffer afterwards. -/
structure Copied where
  length : Nat
  buffer : List UInt8
deriving DecidableEq

def copyInto (buffer : List UInt8) (text : String) : Copied :=
  let bytes := (Text.cut text buffer.length).toByteArray.data.toList
  ⟨bytes.length, bytes ++ buffer.drop bytes.length⟩

def popInto (l : Logger) (buffer : Option (List UInt8)) (context : Bool) :
    Performance (Except BufferFault Copied) :=
  match buffer with
  | none => { value := .error .missing, logger := l }
  | some [] => { value := .error .empty, logger := l }
  | some bytes =>
    let popped := l.pop
    { value := .ok <|
        match popped.value with
        | none => ⟨0, bytes⟩
        | some e => copyInto bytes (e.render context)
      logger := popped.logger
      notices := popped.notices }

def drainUpTo (l : Logger) : Nat → Performance (List String)
  | 0 => { value := [], logger := l }
  | most + 1 =>
    let popped := l.pop
    match popped.value with
    | none => { value := [], logger := l }
    | some e =>
      let rest := drainUpTo popped.logger most
      { value := Text.withoutFinalNewlines e.text :: rest.value
        logger := rest.logger
        notices := popped.notices ++ rest.notices }

def drain (l : Logger) : Performance (List String) :=
  l.drainUpTo l.backlog.size

def discard (l : Logger) : Performance Nat :=
  let (dropped, backlog) := l.backlog.clear
  { value := dropped.length
    logger := { l with backlog := backlog }
    notices := if dropped.isEmpty then [] else [.drained .free dropped.length 0] }

end Logger

end Logbook
