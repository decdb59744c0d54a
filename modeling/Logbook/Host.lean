import Logbook.Forwarding
import Logbook.Host.Device

/-!
A host: the devices, the standard streams, the ambient logger and what is heard of its events.

The ambient logger is borrowed while an operation runs on it. A request finds it free or panics. It
is given back before the texts of a request are delivered, so a callback may ask again; inside
`borrowing` it is kept, and a callback that asks panics.
-/

namespace Logbook

open Tracing

structure Host where
  devices : List Device := []
  output : String := ""
  errors : String := ""
  ambient : Logger := .initial
  borrowed : Bool := false
  filter : Filter := .upTo .trace
  forwarding : Bool := true
  notices : List Notice := []

/-- What becomes of an action on a host. A panic leaves the host as it is at that moment. -/
inductive Outcome (α : Type) where
  | done (host : Host) (value : α)
  | panicked (host : Host)

namespace Outcome

variable {α β : Type}

def host : Outcome α → Host
  | done h _ => h
  | panicked h => h

def isPanic : Outcome α → Bool
  | done _ _ => false
  | panicked _ => true

def andThen (o : Outcome α) (next : Host → α → Outcome β) : Outcome β :=
  match o with
  | done h a => next h a
  | panicked h => panicked h

def map (f : α → β) (o : Outcome α) : Outcome β :=
  o.andThen fun h a => done h (f a)

def always (o : Outcome α) (f : Host → Host) : Outcome α :=
  match o with
  | done h a => done (f h) a
  | panicked h => panicked (f h)

end Outcome

namespace Host

def onDevice (h : Host) (number : Nat) (f : Device → Device) : Host :=
  { h with devices := h.devices.modify number f }

def put (h : Host) (d : Delivery) : Host :=
  match d.sink with
  | .output mode => { h with output := h.output ++ mode.frame d.text }
  | .errors mode => { h with errors := h.errors ++ mode.frame d.text }
  | .device number => h.onDevice number (Device.accept d.text)

def forward? (h : Host) (e : Event) : Option Request :=
  if h.forwarding && h.filter.admits e.verbosity then e.request? else none

def react? (h : Host) : Sink → Option (Reaction × Host)
  | .device number =>
    (h.devices[number]?.bind (Device.react? h.forward?)).map fun (reaction, device) =>
      (reaction, h.onDevice number fun _ => device)
  | _ => none

def pendingCount (h : Host) : Nat :=
  Device.pendingTotal h.devices

def announce (h : Host) (notices : List Notice) : Host :=
  { h with notices := h.notices ++ notices.filter fun n => h.filter.admits n.toEvent.verbosity }

def deliverAll (deliver : Delivery → Host → Outcome Unit) : List Delivery → Host → Outcome Unit
  | [], h => .done h ()
  | d :: rest, h => (deliver d h).andThen fun h _ => deliverAll deliver rest h

/-- A request changes the ambient logger while it is borrowed and delivers after giving it back. An
event raised in between that led to a request would find the logger borrowed. -/
def requestWith (deliver : Delivery → Host → Outcome Unit) (r : Request) (h : Host) :
    Outcome Reply :=
  if h.borrowed then .panicked h
  else
    let p := r.perform h.ambient
    let h := { h with ambient := p.logger }.announce p.notices
    if p.notices.any fun n => (h.forward? n.toEvent).isSome then .panicked h
    else (deliverAll deliver p.deliveries h).map fun _ => p.value

def note (h : Host) (sink : Sink) (reply : Reply) : Host :=
  match reply.note? with
  | none => h
  | some line => h.put ⟨sink, line⟩

def requestsWith (deliver : Delivery → Host → Outcome Unit) (sink : Sink) :
    List Request → Host → Outcome Unit
  | [], h => .done h ()
  | r :: rest, h =>
    (requestWith deliver r h).andThen fun h reply =>
      requestsWith deliver sink rest (h.note sink reply)

def reactWith (deliver : Delivery → Host → Outcome Unit) (reaction : Reaction) (d : Delivery)
    (h : Host) : Outcome Unit :=
  if reaction.before then
    (requestsWith deliver d.sink reaction.requests h).andThen fun h _ => .done (h.put d) ()
  else requestsWith deliver d.sink reaction.requests (h.put d)

/-- Calls a sink. Each reaction uses up one that is pending, so reactions nest no deeper than there
are pending ones. -/
def deliverWithin : Nat → Delivery → Host → Outcome Unit
  | 0, d, h => .done (h.put d) ()
  | depth + 1, d, h =>
    match h.react? d.sink with
    | none => .done (h.put d) ()
    | some (reaction, h) => reactWith (deliverWithin depth) reaction d h

def deliver (h : Host) (deliveries : List Delivery) : Outcome Unit :=
  deliverAll (deliverWithin h.pendingCount) deliveries h

def request (h : Host) (r : Request) : Outcome Reply :=
  requestWith (deliverWithin h.pendingCount) r h

def requestAll : List Request → Host → Outcome Unit
  | [], h => .done h ()
  | r :: rest, h => (h.request r).andThen fun h _ => requestAll rest h

def settle {α : Type} (h : Host) (p : Performance α) : Outcome α :=
  let forwarded := p.notices.filterMap fun n => h.forward? n.toEvent
  ((requestAll forwarded (h.announce p.notices)).andThen fun h _ => h.deliver p.deliveries).map
    fun _ => p.value

/-- Runs an action while the ambient logger is borrowed, and gives the logger back however the
action ends. -/
def borrowing {α : Type} (h : Host) (action : Host → Outcome α) : Outcome α :=
  if h.borrowed then .panicked h
  else (action { h with borrowed := true }).always fun h => { h with borrowed := false }

def onAmbient (h : Host) (c : Call) : Outcome Reply :=
  let p := h.ambient.perform c
  settle { h with ambient := p.logger } p

def borrowedCall (h : Host) (c : Call) : Outcome Reply :=
  h.borrowing (onAmbient · c)

def raise (h : Host) (e : Event) : Outcome Unit :=
  match h.forward? e with
  | none => .done h ()
  | some r => (h.request r).map fun _ => ()

def subscribe (h : Host) : Outcome Unit :=
  if h.forwarding then .panicked h else .done { h with forwarding := true } ()

end Host

end Logbook
