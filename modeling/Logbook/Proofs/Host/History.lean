import Logbook.Proofs.Host.Running
import Logbook.Proofs.Reachable

/-!
What happens on a host while requests are made, one thing after the other. A sink that is called may
make requests of its own, so what belongs to one request lies between what belongs to others. The
history is read off the host, and played back it leads to the host that the requests leave.
-/

namespace Logbook

/-- Requests are numbered as they change the ambient logger. A sink is called for the request whose
text it is handed, and takes in that text; what it asks meanwhile has numbers of its own. -/
inductive Occurrence where
  | asked (number : Nat) (r : Request)
  | called (number : Nat) (d : Delivery)
  | began (s : Sink)
  | took (number : Nat) (d : Delivery)
  | answered (number : Nat) (reply : Reply)
  | noted (s : Sink) (reply : Reply)

abbrev History := List Occurrence

namespace Occurrence

@[simp]
def request? : Occurrence → Option Request
  | asked _ r => some r
  | _ => none

@[simp]
def number? : Occurrence → Option Nat
  | asked number _ => some number
  | called number _ => some number
  | took number _ => some number
  | answered number _ => some number
  | _ => none

end Occurrence

namespace History

def requests (t : History) : List Request :=
  t.filterMap Occurrence.request?

def ofNumber (t : History) (number : Nat) : History :=
  t.filter fun o => o.number? = some number

@[simp]
theorem requests_nil : requests [] = [] := rfl

@[simp]
theorem requests_cons (o : Occurrence) (t : History) :
    requests (o :: t) = o.request?.toList ++ t.requests := by
  rw [requests, List.filterMap_cons]
  cases o.request? <;> rfl

@[simp]
theorem requests_append (t u : History) : requests (t ++ u) = t.requests ++ u.requests :=
  List.filterMap_append

@[simp]
theorem ofNumber_nil (number : Nat) : ofNumber [] number = [] := rfl

@[simp]
theorem ofNumber_cons (o : Occurrence) (t : History) (number : Nat) :
    ofNumber (o :: t) number =
      if o.number? = some number then o :: t.ofNumber number else t.ofNumber number := by
  rw [ofNumber, List.filter_cons]
  simp only [decide_eq_true_eq, ofNumber]

@[simp]
theorem ofNumber_append (t u : History) (number : Nat) :
    ofNumber (t ++ u) number = t.ofNumber number ++ u.ofNumber number :=
  List.filter_append _ _

end History

namespace Host

def play (h : Host) : Occurrence → Host
  | .asked _ r => h.changed (r.perform h.ambient)
  | .called _ _ => h
  | .began s => (h.react? s).elim h Prod.snd
  | .took _ d => h.put d
  | .answered _ _ => h
  | .noted s reply => h.note s reply

def playAll (h : Host) (t : History) : Host :=
  t.foldl play h

theorem playAll_cons (h : Host) (o : Occurrence) (t : History) :
    h.playAll (o :: t) = (h.play o).playAll t := rfl

theorem playAll_append (h : Host) (t u : History) : h.playAll (t ++ u) = (h.playAll t).playAll u :=
  List.foldl_append

theorem play_cases (h : Host) (o : Occurrence) :
    (∃ number r, o = .asked number r ∧ h.play o = h.changed (r.perform h.ambient)) ∨
      o.request? = none ∧ h.Untouched (h.play o) := by
  cases o with
  | asked number r => exact .inl ⟨number, r, rfl, rfl⟩
  | called | answered => exact .inr ⟨rfl, .refl h⟩
  | began s =>
    refine .inr ⟨rfl, ?_⟩
    rw [play]
    cases hr : h.react? s with
    | none => exact .refl h
    | some x => exact untouched_react hr
  | took number d => exact .inr ⟨rfl, h.untouched_put d⟩
  | noted s reply => exact .inr ⟨rfl, h.untouched_note s reply⟩

theorem borrowed_playAll (h : Host) (t : History) : (h.playAll t).borrowed = h.borrowed := by
  induction t generalizing h with
  | nil => rfl
  | cons o rest ih =>
    refine (ih (h.play o)).trans ?_
    obtain ⟨number, r, -, hp⟩ | ⟨-, hu⟩ := h.play_cases o
    · rw [hp]
      rfl
    · exact hu.borrowed

theorem ambient_playAll (h : Host) (t : History) :
    (h.playAll t).ambient = h.ambient.after t.requests := by
  induction t generalizing h with
  | nil => rfl
  | cons o rest ih =>
    refine (ih (h.play o)).trans ?_
    obtain ⟨number, r, rfl, hp⟩ | ⟨hn, hu⟩ := h.play_cases o
    · rw [hp]
      rfl
    · rw [hu.ambient, History.requests_cons, hn]
      rfl

section

variable (inner : Nat → Nat → Delivery → Host → History)

def historyOfAll (number : Nat) : Nat → List Delivery → Host → History
  | _, [], _ => []
  | next, d :: rest, h =>
    let t := inner number next d h
    t ++ historyOfAll number (next + t.requests.length) rest (h.playAll t)

def historyOfRequest (number : Nat) (r : Request) (h : Host) : History :=
  let p := r.perform h.ambient
  .asked number r :: historyOfAll inner number (number + 1) p.deliveries (h.changed p) ++
    [.answered number p.value]

def historyOfRequests (s : Sink) : Nat → List Request → Host → History
  | _, [], _ => []
  | next, r :: rest, h =>
    let t := historyOfRequest inner next r h ++ [.noted s (r.perform h.ambient).value]
    t ++ historyOfRequests s (next + t.requests.length) rest (h.playAll t)

def historyOfReaction (number next : Nat) (reaction : Reaction) (d : Delivery) (h : Host) :
    History :=
  if reaction.before then
    historyOfRequests inner d.sink next reaction.requests h ++ [.took number d]
  else .took number d :: historyOfRequests inner d.sink next reaction.requests (h.put d)

end

def historyWithin : Nat → Nat → Nat → Delivery → Host → History
  | 0, number, _, d, _ => [.called number d, .took number d]
  | depth + 1, number, next, d, h =>
    .called number d ::
      match h.react? d.sink with
      | none => [.took number d]
      | some (reaction, g) =>
        .began d.sink :: historyOfReaction (historyWithin depth) number next reaction d g

def history (next : Nat) : List Request → Host → History
  | [], _ => []
  | r :: rest, h =>
    let t := historyOfRequest (historyWithin h.pendingCount) next r h
    t ++ history (next + t.requests.length) rest (h.playAll t)

def Follows (deliver : Delivery → Host → Outcome Unit)
    (inner : Nat → Nat → Delivery → Host → History) : Prop :=
  ∀ number next d h, h.borrowed = false → deliver d h = .done (h.playAll (inner number next d h)) ()

section

variable {deliver : Delivery → Host → Outcome Unit} {inner : Nat → Nat → Delivery → Host → History}
  (hf : Follows deliver inner)

include hf

theorem deliverAll_eq_playAll (number next : Nat) (ds : List Delivery) {h : Host}
    (hb : h.borrowed = false) :
    deliverAll deliver ds h = .done (h.playAll (historyOfAll inner number next ds h)) () := by
  induction ds generalizing next h with
  | nil => rfl
  | cons d rest ih =>
    rw [deliverAll, hf number next d h hb, historyOfAll, playAll_append]
    exact ih _ ((h.borrowed_playAll _).trans hb)

theorem requestWith_eq_playAll (number : Nat) (r : Request) {h : Host} (hb : h.borrowed = false) :
    requestWith deliver r h =
      .done (h.playAll (historyOfRequest inner number r h)) (r.perform h.ambient).value := by
  have hd := deliverAll_eq_playAll hf number (number + 1) (r.perform h.ambient).deliveries
    (h := h.changed (r.perform h.ambient)) hb
  rw [requestWith_of_free deliver r hb, hd, historyOfRequest, List.cons_append, playAll_cons,
    playAll_append]
  rfl

theorem requestsWith_eq_playAll (s : Sink) (next : Nat) (rs : List Request) {h : Host}
    (hb : h.borrowed = false) :
    requestsWith deliver s rs h = .done (h.playAll (historyOfRequests inner s next rs h)) () := by
  induction rs generalizing next h with
  | nil => rfl
  | cons r rest ih =>
    rw [requestsWith, requestWith_eq_playAll hf next r hb, historyOfRequests, playAll_append]
    have hn : (h.playAll (historyOfRequest inner next r h)).note s (r.perform h.ambient).value =
        h.playAll (historyOfRequest inner next r h ++ [.noted s (r.perform h.ambient).value]) := by
      rw [playAll_append]
      rfl
    rw [Outcome.andThen, hn]
    exact ih _ ((h.borrowed_playAll _).trans hb)

theorem reactWith_eq_playAll (number next : Nat) (reaction : Reaction) (d : Delivery) {h : Host}
    (hb : h.borrowed = false) :
    reactWith deliver reaction d h =
      .done (h.playAll (historyOfReaction inner number next reaction d h)) () := by
  rw [reactWith, historyOfReaction]
  split
  · rw [requestsWith_eq_playAll hf d.sink next reaction.requests hb, playAll_append]
    rfl
  · have hp : (h.put d).borrowed = false := (h.untouched_put d).borrowed.trans hb
    rw [requestsWith_eq_playAll hf d.sink next reaction.requests hp]
    rfl

end

theorem follows_historyWithin (depth : Nat) :
    Follows (deliverWithin depth) (historyWithin depth) := by
  -- on the depth to which reactions may still nest
  induction depth with
  | zero =>
    intro number next d h hb
    rfl
  | succ depth ih =>
    intro number next d h hb
    rw [deliverWithin, historyWithin]
    cases hr : h.react? d.sink with
    | none => rfl
    | some x =>
      have hx : x.2.borrowed = false := (untouched_react hr).borrowed.trans hb
      have hp : (h.play (.called number d)).play (.began d.sink) = x.2 := by
        rw [play, play, hr]
        rfl
      rw [playAll_cons, playAll_cons, hp]
      exact reactWith_eq_playAll ih number next x.1 d hx

theorem request_eq_playAll (r : Request) {h : Host} (hb : h.borrowed = false) :
    h.request r = .done (h.playAll (history 0 [r] h)) (r.perform h.ambient).value := by
  rw [history, history, List.append_nil]
  exact requestWith_eq_playAll (follows_historyWithin h.pendingCount) 0 r hb

theorem requestAll_eq_playAll (next : Nat) (rs : List Request) {h : Host} (hb : h.borrowed = false) :
    requestAll rs h = .done (h.playAll (history next rs h)) () := by
  induction rs generalizing next h with
  | nil => rfl
  | cons r rest ih =>
    have hr : h.request r = _ :=
      requestWith_eq_playAll (follows_historyWithin h.pendingCount) next r hb
    rw [requestAll, hr, history, playAll_append]
    exact ih _ ((h.borrowed_playAll _).trans hb)

end Host

end Logbook
