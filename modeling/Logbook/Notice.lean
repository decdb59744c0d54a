import Logbook.Severity
import Logbook.Tracing.Event

namespace Logbook

inductive Removal where
  | emit
  | pop
  | free
deriving DecidableEq

def Removal.label : Removal → String
  | emit => "emit"
  | pop => "pop"
  | free => "free"

inductive Notice where
  | configured (capacity discarded : Nat)
  | prefixRejected (outlet : Outlet) (length : Nat)
  | evicted (count capacity : Nat)
  | drained (removal : Removal) (count remaining : Nat)
deriving DecidableEq

namespace Notice

open Tracing

def target : Notice → String
  | configured .. => "mslog::config"
  | prefixRejected .. => "mslog::config"
  | evicted .. => "mslog::registry"
  | drained .. => "mslog::registry"

def verbosity : Notice → Verbosity
  | configured .. => .debug
  | prefixRejected .. => .debug
  | evicted .. => .trace
  | drained .. => .trace

def title : Notice → String
  | configured .. => "channel_configured"
  | prefixRejected .. => "prefix_rejected"
  | evicted .. => "registry_evicted"
  | drained .. => "registry_drained"

def prefixName : Outlet → String
  | .log => "log_prefix"
  | .diagnostic => "diag_prefix"

def details : Notice → List Field
  | configured capacity discarded => [⟨"capacity", .int capacity⟩, ⟨"discarded", .int discarded⟩]
  | prefixRejected outlet length =>
    [⟨"field", .text (prefixName outlet)⟩, ⟨"length", .int length⟩]
  | evicted count capacity => [⟨"evicted", .int count⟩, ⟨"capacity", .int capacity⟩]
  | drained removal count remaining =>
    [⟨"operation", .text removal.label⟩, ⟨"count", .int count⟩, ⟨"remaining", .int remaining⟩]

/-- A notice is an event like any other, under a target of its own. -/
def toEvent (n : Notice) : Event :=
  ⟨n.verbosity, n.target, ⟨"message", .text n.title⟩ :: n.details⟩

end Notice

end Logbook
