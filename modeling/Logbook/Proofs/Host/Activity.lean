import Logbook.Proofs.Host.Running

/-!
What a program does on a host: it makes requests, calls loggers of its own, and borrows the ambient
logger. Beside its effect it has moments, the requests made and the sinks called on the way. Each
moment says whether some borrowing is going on then. That is read off the program and not off the
host.
-/

namespace Logbook

inductive Activity where
  | nothing
  | request (r : Request)
  | own (l : Logger) (c : Call)
  /-- A call of the ambient logger by whoever has borrowed it. -/
  | held (c : Call)
  /-- Whoever has borrowed the ambient logger puts another one in its place. -/
  | replace (l : Logger)
  | borrowing (body : Activity)
  | andThen (first second : Activity)
  /-- Goes on after a panic of its body. -/
  | attempt (body : Activity)

inductive Caller where
  | request
  | method
deriving DecidableEq

inductive Moment where
  | request (active : Bool) (r : Request) (outcome : Outcome Reply)
  | sink (active : Bool) (caller : Caller) (host : Host)

def Moment.active : Moment → Bool
  | request active _ _ => active
  | sink active _ _ => active

def Outcome.next {α : Type} (o : Outcome α) (moments : Host → α → List Moment) : List Moment :=
  match o with
  | .done h a => moments h a
  | .panicked _ => []

namespace Host

section

variable (active : Bool) (deliver : Delivery → Host → Outcome Unit)
  (moments : Delivery → Host → List Moment)

def momentsOfAll (caller : Caller) : List Delivery → Host → List Moment
  | [], _ => []
  | d :: rest, h =>
    .sink active caller h :: moments d h ++
      (deliver d h).next fun g _ => momentsOfAll caller rest g

def momentsOfRequest (r : Request) (h : Host) : List Moment :=
  .request active r (requestWith deliver r h) ::
    if h.borrowed then []
    else
      momentsOfAll active deliver moments .request (r.perform h.ambient).deliveries
        (h.changed (r.perform h.ambient))

def momentsOfRequests (sink : Sink) : List Request → Host → List Moment
  | [], _ => []
  | r :: rest, h =>
    momentsOfRequest active deliver moments r h ++
      (requestWith deliver r h).next fun g reply => momentsOfRequests sink rest (g.note sink reply)

def momentsOfReaction (reaction : Reaction) (d : Delivery) (h : Host) : List Moment :=
  momentsOfRequests active deliver moments d.sink reaction.requests
    (if reaction.before then h else h.put d)

end

def momentsWithin (active : Bool) : Nat → Delivery → Host → List Moment
  | 0, _, _ => []
  | depth + 1, d, h =>
    match h.react? d.sink with
    | none => []
    | some (reaction, g) =>
      momentsOfReaction active (deliverWithin depth) (momentsWithin active depth) reaction d g

def momentsOfAsking (active : Bool) (h : Host) (r : Request) : List Moment :=
  momentsOfRequest active (deliverWithin h.pendingCount) (momentsWithin active h.pendingCount) r h

def momentsOfSettling {α : Type} (active : Bool) (h : Host) (p : Performance α) : List Moment :=
  let g := h.announce p.notices
  momentsOfAll active (deliverWithin g.pendingCount) (momentsWithin active g.pendingCount) .method
    p.deliveries g

end Host

namespace Activity

def run : Activity → Host → Outcome Unit
  | nothing, h => .done h ()
  | request r, h => (h.request r).map fun _ => ()
  | own l c, h => (h.settle (l.perform c)).map fun _ => ()
  | held c, h => (h.onAmbient c).map fun _ => ()
  | replace l, h => .done { h with ambient := l } ()
  | borrowing body, h => h.borrowing body.run
  | andThen first second, h => (first.run h).andThen fun g _ => second.run g
  | attempt body, h => .done (body.run h).host ()

def moments (active : Bool) : Activity → Host → List Moment
  | nothing, _ => []
  | request r, h => h.momentsOfAsking active r
  | own l c, h => h.momentsOfSettling active (l.perform c)
  | held c, h =>
    let p := h.ambient.perform c
    Host.momentsOfSettling active { h with ambient := p.logger } p
  | replace _, _ => []
  | borrowing body, h => if h.borrowed then [] else body.moments true { h with borrowed := true }
  | andThen first second, h =>
    first.moments active h ++ (first.run h).next fun g _ => second.moments active g
  | attempt body, h => body.moments active h

def neverBorrows : Activity → Bool
  | borrowing _ => false
  | andThen first second => first.neverBorrows && second.neverBorrows
  | attempt body => body.neverBorrows
  | _ => true

def outcomes : List Activity → Host → List (Outcome Unit)
  | [], _ => []
  | a :: rest, h => a.run h :: outcomes rest (a.run h).host

def momentsOfSteps : List Activity → Host → List Moment
  | [], _ => []
  | a :: rest, h => a.moments false h ++ momentsOfSteps rest (a.run h).host

end Activity

end Logbook
