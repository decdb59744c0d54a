import Logbook.Retention
import Logbook.Text.Outline

namespace Logbook

/-- The greatest size in bytes of a prefix, and of a message without its prefix. -/
def textLimit : Nat := 200

def captureCapacity : Nat := 10

/-- A field that is not given keeps its value. The capacity is always applied. -/
structure Settings (σ : Type) where
  logSink : Option σ := none
  logPrefix : Option String := none
  diagnosticSink : Option σ := none
  diagnosticPrefix : Option String := none
  maxMessages : Nat := 0
  retention : Option Retention := none
deriving DecidableEq

namespace Settings

variable {σ τ : Type}

def buffered (maxMessages : Nat) : Settings σ :=
  { maxMessages := maxMessages }

def unbuffered (s : Settings σ) : Settings σ :=
  { s with maxMessages := 0 }

def resolve? (find : σ → Option τ) (s : Settings σ) : Option (Settings τ) := do
  let logSink ← s.logSink.mapM find
  let diagnosticSink ← s.diagnosticSink.mapM find
  return { s with logSink, diagnosticSink }

def outline (s : Settings σ) : Text.Outline :=
  .record "LogSettings"
    [("log_sink", .bool s.logSink.isSome),
      ("log_prefix", .option .string s.logPrefix),
      ("diag_sink", .bool s.diagnosticSink.isSome),
      ("diag_prefix", .option .string s.diagnosticPrefix),
      ("max_messages", .nat s.maxMessages),
      ("policy", .option (fun r => .atom r.constructorName) s.retention)]
    true

end Settings

/-- Settings without sinks. A prefix that is not given keeps its value; the retention is always
applied. -/
structure HostSettings where
  logPrefix : Option String := none
  errorPrefix : Option String := none
  maxMessages : UInt64 := 0
  retention : Retention := .diagnosticsOnly
deriving DecidableEq

namespace HostSettings

def capture : HostSettings :=
  { maxMessages := captureCapacity.toUInt64 }

def toSettings {σ : Type} (s : HostSettings) : Settings σ :=
  { logPrefix := s.logPrefix
    diagnosticPrefix := s.errorPrefix
    maxMessages := s.maxMessages.toNat
    retention := some s.retention }

end HostSettings

end Logbook
