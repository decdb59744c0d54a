import Logbook.Host

namespace Logbook

open Tracing

/-- A program on the ambient logger and on loggers of its own. What it does next may depend on all
that it was answered. -/
inductive Program where
  | answer (replies : List Reply)
  | raise (e : Event) (next : Program)
  | request (r : Request) (next : Reply → Program)
  | own (l : Logger) (c : Call) (next : Reply → Program)
  /-- A call of the ambient logger by whoever has borrowed it. -/
  | held (c : Call) (next : Reply → Program)
  | look (next : Logger → Program)
  | replace (l : Logger) (next : Program)
  /-- A text for a sink, past all loggers. -/
  | hand (d : Delivery) (next : Program)
  | borrowing (body : Program) (next : List Reply → Program)
  /-- Goes on after a panic of its body, from what the body has answered if it has not panicked. -/
  | attempt (body : Program) (next : Option (List Reply) → Program)

def Outcome.value? {α : Type} : Outcome α → Option α
  | done _ a => some a
  | panicked _ => none

namespace Program

def run : Program → Host → Outcome (List Reply)
  | answer replies, h => .done h replies
  | raise e next, h => (h.raise e).andThen fun g _ => next.run g
  | request r next, h => (h.request r).andThen fun g reply => (next reply).run g
  | own l c next, h => (h.settle (l.perform c)).andThen fun g reply => (next reply).run g
  | held c next, h => (h.onAmbient c).andThen fun g reply => (next reply).run g
  | look next, h => (next h.ambient).run h
  | replace l next, h => next.run { h with ambient := l }
  | hand d next, h => (h.deliver [d]).andThen fun g _ => next.run g
  | borrowing body next, h => (h.borrowing body.run).andThen fun g replies => (next replies).run g
  | attempt body next, h => (next (body.run h).value?).run (body.run h).host

def replaced (heard : Event → Option Request) : Program → Program
  | answer replies => answer replies
  | raise e next =>
    match heard e with
    | none => next.replaced heard
    | some r => request r fun _ => next.replaced heard
  | request r next => request r fun reply => (next reply).replaced heard
  | own l c next => own l c fun reply => (next reply).replaced heard
  | held c next => held c fun reply => (next reply).replaced heard
  | look next => look fun l => (next l).replaced heard
  | replace l next => replace l (next.replaced heard)
  | hand d next => hand d (next.replaced heard)
  | borrowing body next =>
    borrowing (body.replaced heard) fun replies => (next replies).replaced heard
  | attempt body next => attempt (body.replaced heard) fun replies => (next replies).replaced heard

end Program

def Act.replaced? (heard : Event → Option Request) : Act → Option Act
  | request r => some (.request r)
  | raise e => (heard e).map .request

def Response.replaced (heard : Event → Option Request) (r : Response) : Response :=
  { r with acts := r.acts.filterMap (Act.replaced? heard) }

def Device.replaced (heard : Event → Option Request) : Device → Device
  | collecting lines => collecting lines
  | writer w => writer w
  | callback lines pending => callback lines pending
  | instrumented lines responses => instrumented lines (responses.map (Response.replaced heard))

/-- The host without its subscriber. The code behind its sinks makes requests instead of raising
events. -/
def Host.plain (heard : Event → Option Request) (h : Host) : Host :=
  { h with forwarding := false, devices := h.devices.map (Device.replaced heard) }

section

variable {heard : Event → Option Request}

theorem Act.request?_replaced (a : Act) :
    (a.replaced? heard).bind (Act.request? fun _ => none) = a.request? heard := by
  cases a with
  | request r => rfl
  | raise e => cases h : heard e <;> simp [replaced?, request?, h]

theorem Response.reaction_replaced (r : Response) :
    (r.replaced heard).reaction (fun _ => none) = r.reaction heard := by
  rw [reaction, reaction, replaced, List.filterMap_filterMap]
  simp only [Act.request?_replaced]

namespace Device

theorem replaced_accept (text : String) (d : Device) :
    (d.accept text).replaced heard = (d.replaced heard).accept text := by
  cases d <;> rfl

theorem pendingCount_replaced (d : Device) :
    (d.replaced heard).pendingCount = d.pendingCount := by
  cases d with
  | instrumented lines responses => exact List.length_map _
  | _ => rfl

theorem pendingTotal_replaced (ds : List Device) :
    pendingTotal (ds.map (replaced heard)) = pendingTotal ds := by
  induction ds with
  | nil => rfl
  | cons d rest ih => rw [List.map_cons, pendingTotal, pendingTotal, pendingCount_replaced, ih]

theorem react?_replaced (d : Device) :
    (d.replaced heard).react? (fun _ => none) =
      (d.react? heard).map fun x => (x.1, x.2.replaced heard) := by
  cases d with
  | collecting | writer => rfl
  | callback lines pending =>
    rw [replaced, react?, react?, Option.map_map]
    rfl
  | instrumented lines responses =>
    cases responses with
    | nil => rfl
    | cons response rest =>
      rw [replaced, List.map_cons, react?, Response.reaction_replaced]
      rfl

end Device

namespace Host

theorem forward?_plain (h : Host) : (h.plain heard).forward? = fun _ => none := rfl

theorem pendingCount_plain (h : Host) : (h.plain heard).pendingCount = h.pendingCount :=
  Device.pendingTotal_replaced h.devices

theorem plain_onDevice (h : Host) (number : Nat) {f g : Device → Device}
    (hf : ∀ d, (f d).replaced heard = g (d.replaced heard)) :
    (h.onDevice number f).plain heard = (h.plain heard).onDevice number g := by
  have hm : (h.devices.modify number f).map (Device.replaced heard) =
      (h.devices.map (Device.replaced heard)).modify number g := by
    apply List.ext_getElem?
    intro i
    by_cases hi : number = i <;> simp [hi, Function.comp_def, hf]
  rw [plain, onDevice, hm]
  rfl

theorem plain_put (h : Host) (d : Delivery) :
    (h.put d).plain heard = (h.plain heard).put d := by
  rw [put, put]
  cases d.sink with
  | output | errors => rfl
  | device number => exact h.plain_onDevice number (Device.replaced_accept d.text)

theorem plain_note (h : Host) (s : Sink) (reply : Reply) :
    (h.note s reply).plain heard = (h.plain heard).note s reply := by
  rw [note, note]
  cases reply.note? with
  | none => rfl
  | some line => exact h.plain_put ⟨s, line⟩

theorem react?_plain {h : Host} (hh : h.forward? = heard) (s : Sink) :
    (h.plain heard).react? s = (h.react? s).map fun x => (x.1, x.2.plain heard) := by
  cases s with
  | output | errors => rfl
  | device number =>
    have hd : (h.plain heard).devices[number]? =
        h.devices[number]?.map (Device.replaced heard) := List.getElem?_map
    rw [react?, react?, hh, hd, forward?_plain]
    cases h.devices[number]? with
    | none => rfl
    | some d =>
      rw [Option.map_some, Option.bind_some, Option.bind_some, Device.react?_replaced]
      cases d.react? heard with
      | none => rfl
      | some x =>
        have hx := h.plain_onDevice number (f := fun _ => x.2) (g := fun _ => x.2.replaced heard)
          fun _ => rfl
        simp only [Option.map_some, hx]

end Host

end

end Logbook
