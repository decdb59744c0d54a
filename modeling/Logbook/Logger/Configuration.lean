import Logbook.Logger

/-!
Configuring a logger. Sinks come first, so that a refused prefix is reported to the sink that the same
settings install; the backlog is replaced in any case.
-/

namespace Logbook

/-- The settings of a host that captures warnings and errors: both standard streams and a backlog.
The retention is left as it is. -/
def Settings.capture (logPrefix errorPrefix : Option String) (maxMessages : Nat) : Settings Sink :=
  { logSink := some (.builtin .log)
    logPrefix := logPrefix
    diagnosticSink := some (.builtin .diagnostic)
    diagnosticPrefix := errorPrefix
    maxMessages := maxMessages }

namespace Logger

def withSinks (l : Logger) (s : Settings Sink) : Logger :=
  { l with
    logSink := s.logSink.getD l.logSink
    diagnosticSink := s.diagnosticSink.getD l.diagnosticSink }

def withPrefix (l : Logger) (text : String) : Outlet → Logger
  | .log => { l with logPrefix := text }
  | .diagnostic => { l with diagnosticPrefix := .ofText text }

/-- A fault is reported as an error, past the backlog. -/
def report (l : Logger) (f : ConfigFault) : Delivery :=
  ⟨l.diagnosticSink, l.format .error f.message⟩

def setPrefix (l : Logger) (outlet : Outlet) :
    Option String → Performance (Option ConfigFault)
  | none => { value := none, logger := l }
  | some text =>
    if text.utf8ByteSize ≤ textLimit then { value := none, logger := l.withPrefix text outlet }
    else
      -- the logger is as before, so the report is behind the old prefix
      let fault := .prefixTooLong outlet text.utf8ByteSize
      { value := some fault
        logger := l
        deliveries := [l.report fault]
        notices := [.prefixRejected outlet text.utf8ByteSize] }

def configure (l : Logger) (s : Settings Sink) : Performance (Except ConfigFault Unit) :=
  let forLog := (l.withSinks s).setPrefix .log s.logPrefix
  let forDiagnostics := forLog.logger.setPrefix .diagnostic s.diagnosticPrefix
  let l := forDiagnostics.logger
  { value :=
      match forLog.value <|> forDiagnostics.value with
      | none => .ok ()
      | some fault => .error fault
    logger :=
      { l with
        retention := s.retention.getD l.retention
        backlog := .empty s.maxMessages }
    deliveries := forLog.deliveries ++ forDiagnostics.deliveries
    notices :=
      forLog.notices ++ forDiagnostics.notices ++ [.configured s.maxMessages l.backlog.size] }

def start (l : Logger) (s : Settings Sink) : Performance (Except ConfigFault Unit) :=
  l.configure s.unbuffered

/-- A new logger. A refused prefix is reported but does not keep the logger from being made. -/
def ofSettings (s : Settings Sink) : Performance (Except ConfigFault Unit) :=
  let made := initial.configure s
  { made with
    value :=
      match made.value with
      | .error fault => if fault.isRejection then .ok () else .error fault
      | .ok () => .ok () }

def outline (l : Logger) : Text.Outline :=
  .record "ChannelConfig"
    [("log_prefix", .string l.logPrefix),
      ("diag_prefix", l.diagnosticPrefix.outline),
      ("policy", .atom l.retention.constructorName),
      ("registry",
        .record "MessageRegistry"
          [("capacity", .nat l.backlog.capacity),
            ("entries", .list (l.backlog.entries.map Entry.outline))]
          true)]
    false

end Logger

end Logbook
