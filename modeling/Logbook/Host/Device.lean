import Logbook.Host.Request
import Logbook.Sink.Writer

namespace Logbook

/-- What a callback asks of the ambient logger when it is called, after it has recorded the text or
before. -/
structure Reaction where
  requests : List Request
  before : Bool

/-- Reactions to come, each as many times in a row as its number says. -/
abbrev Pending := List (Nat × Reaction)

namespace Pending

def next? : Pending → Option (Reaction × Pending)
  | [] => none
  | (0, _) :: rest => next? rest
  | (times + 1, reaction) :: rest => some (reaction, (times, reaction) :: rest)

def count : Pending → Nat
  | [] => 0
  | (times, _) :: rest => times + count rest

theorem count_of_next? {p q : Pending} {r : Reaction} (h : next? p = some (r, q)) :
    count p = count q + 1 := by
  induction p with
  | nil => simp [next?] at h
  | cons first rest ih =>
    obtain ⟨times, reaction⟩ := first
    cases times with
    | zero => simpa [count] using ih h
    | succ times =>
      simp only [next?, Option.some.injEq, Prod.mk.injEq] at h
      obtain ⟨-, rfl⟩ := h
      simp only [count]
      omega

theorem next?_eq_none_iff (p : Pending) : next? p = none ↔ count p = 0 := by
  induction p with
  | nil => simp [next?, count]
  | cons first rest ih =>
    obtain ⟨times, reaction⟩ := first
    cases times with
    | zero => simpa [next?, count] using ih
    | succ times => simp [next?, count]

end Pending

/-- What code behind a sink does that is instrumented: it asks the ambient logger, or it raises an
event of its own. -/
inductive Act where
  | request (r : Request)
  | raise (e : Tracing.Event)

def Act.request? (heard : Tracing.Event → Option Request) : Act → Option Request
  | request r => some r
  | raise e => heard e

structure Response where
  acts : List Act
  before : Bool

/-- Nothing that a sink asks changes who hears of events, so what they lead to is known
beforehand. -/
def Response.reaction (heard : Tracing.Event → Option Request) (r : Response) : Reaction :=
  ⟨r.acts.filterMap (Act.request? heard), r.before⟩

/-- A callback reacts to each text with the next of its pending reactions, as long as there are
any. An instrumented one has responses instead. -/
inductive Device where
  | collecting (lines : List String)
  | writer (w : Writer)
  | callback (lines : List String) (pending : Pending)
  | instrumented (lines : List String) (responses : List Response)

namespace Device

def accept (text : String) : Device → Device
  | collecting lines => collecting (lines ++ [text])
  | writer w => writer (w.accept text)
  | callback lines pending => callback (lines ++ [text]) pending
  | instrumented lines responses => instrumented (lines ++ [text]) responses

def react? (heard : Tracing.Event → Option Request) : Device → Option (Reaction × Device)
  | callback lines pending =>
    (Pending.next? pending).map fun (reaction, rest) => (reaction, callback lines rest)
  | instrumented lines (response :: rest) => some (response.reaction heard, instrumented lines rest)
  | _ => none

def pendingCount : Device → Nat
  | callback _ pending => Pending.count pending
  | instrumented _ responses => responses.length
  | _ => 0

def pendingTotal : List Device → Nat
  | [] => 0
  | d :: rest => d.pendingCount + pendingTotal rest

theorem pendingCount_accept (text : String) (d : Device) :
    (d.accept text).pendingCount = d.pendingCount := by
  cases d <;> rfl

theorem pendingCount_of_react? {heard : Tracing.Event → Option Request} {d e : Device}
    {r : Reaction} (h : d.react? heard = some (r, e)) : d.pendingCount = e.pendingCount + 1 := by
  cases d with
  | collecting lines => simp [react?] at h
  | writer w => simp [react?] at h
  | callback lines pending =>
    simp only [react?, Option.map_eq_some_iff] at h
    obtain ⟨⟨reaction, rest⟩, hn, hp⟩ := h
    obtain ⟨rfl, rfl⟩ := Prod.mk.inj hp
    exact Pending.count_of_next? hn
  | instrumented lines responses =>
    cases responses with
    | nil => simp [react?] at h
    | cons response rest =>
      obtain ⟨-, rfl⟩ := Prod.mk.inj (Option.some.inj h)
      rfl

end Device

end Logbook
