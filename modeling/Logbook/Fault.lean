import Logbook.Json.Value
import Logbook.Severity

namespace Logbook

/-- A prefix that is too long is refused alone; the rest of its settings is applied. -/
inductive ConfigFault where
  | prefixTooLong (outlet : Outlet) (length : Nat)
  /-- No memory could be had for the backlog. Configurations here never run out of it, so only the texts
  of this fault are told. -/
  | allocation (requested : Nat)
deriving DecidableEq

namespace ConfigFault

def message : ConfigFault → String
  | prefixTooLong .log _ => "log message prefix is too large"
  | prefixTooLong .diagnostic _ => "error message prefix is too large"
  | allocation requested =>
    s!"cannot allocate a message registry for {requested} messages"

def name : ConfigFault → String
  | prefixTooLong .log _ => "LogPrefixTooLarge"
  | prefixTooLong .diagnostic _ => "DiagPrefixTooLarge"
  | allocation _ => "Allocation"

def isRejection : ConfigFault → Bool
  | prefixTooLong _ _ => true
  | allocation _ => false

def hasCause : ConfigFault → Bool
  | prefixTooLong _ _ => false
  | allocation _ => true

def length? : ConfigFault → Option Nat
  | prefixTooLong _ length => some length
  | allocation _ => none

def toJson (f : ConfigFault) : Json.Value :=
  .ofMembers
    (("error", .ofText f.name) ::
      (f.length?.toList.map fun n => ("length", .ofNat n)) ++
      [("message", .ofText f.message)])

end ConfigFault

inductive BufferFault where
  | missing
  | empty
deriving DecidableEq

namespace BufferFault

def message : BufferFault → String
  | missing => "no output buffer supplied"
  | empty => "output buffer has zero length"

def name : BufferFault → String
  | missing => "MissingBuffer"
  | empty => "EmptyBuffer"

def status : BufferFault → Int
  | _ => -1

def toJson (f : BufferFault) : Json.Value :=
  .ofMembers
    [("error", .ofText f.name), ("message", .ofText f.message),
      ("status", .number (toString f.status).toList)]

end BufferFault

end Logbook
