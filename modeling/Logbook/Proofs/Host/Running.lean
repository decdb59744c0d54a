import Logbook.Host

/-!
Whatever runs on a host, sinks and their requests included, takes it from one host to the next by a
few steps. A relation that holds across each of them holds across the whole.
-/

namespace Logbook

open Tracing

variable {α β : Type}

namespace Host

def changed (h : Host) (p : Performance α) : Host :=
  { h with ambient := p.logger }.announce p.notices

theorem forward?_notice (h : Host) (n : Notice) : h.forward? n.toEvent = none := by
  rw [forward?]
  split
  · exact request?_notice n
  · rfl

theorem requestWith_of_borrowed (deliver : Delivery → Host → Outcome Unit) (r : Request) {h : Host}
    (hb : h.borrowed = true) : requestWith deliver r h = .panicked h := by
  rw [requestWith, if_pos hb]

theorem requestWith_of_free (deliver : Delivery → Host → Outcome Unit) (r : Request) {h : Host}
    (hb : h.borrowed = false) :
    requestWith deliver r h =
      (deliverAll deliver (r.perform h.ambient).deliveries
        (h.changed (r.perform h.ambient))).map fun _ => (r.perform h.ambient).value := by
  -- notices are not forwarded, so nothing finds the logger borrowed
  have hn : ∀ g : Host, ∀ ns : List Notice,
      (ns.any fun n => (g.forward? n.toEvent).isSome) = false := by
    intro g ns
    rw [List.any_eq_false]
    intro n _
    rw [forward?_notice]
    exact Bool.false_ne_true
  simp only [requestWith, hb, Bool.false_eq_true, if_false, hn, changed]

theorem filterMap_forward? (h : Host) (ns : List Notice) :
    ns.filterMap (fun n => h.forward? n.toEvent) = [] := by
  rw [List.filterMap_eq_nil_iff]
  intro n _
  exact forward?_notice h n

theorem settle_eq (h : Host) (p : Performance α) :
    h.settle p = ((h.announce p.notices).deliver p.deliveries).map fun _ => p.value := by
  rw [settle, filterMap_forward?]
  rfl

theorem requestWith_eq_borrowing (deliver : Delivery → Host → Outcome Unit) (r : Request)
    (h : Host) :
    requestWith deliver r h =
      (h.borrowing fun g =>
        let p := r.perform g.ambient
        let g := g.changed p
        (requestAll (p.notices.filterMap fun n => g.forward? n.toEvent) g).map fun _ => p).andThen
        fun g p => (deliverAll deliver p.deliveries g).map fun _ => p.value := by
  cases hb : h.borrowed with
  | true =>
    rw [requestWith_of_borrowed deliver r hb, borrowing, if_pos hb]
    rfl
  | false =>
    rw [requestWith_of_free deliver r hb, borrowing, if_neg (Bool.eq_false_iff.mp hb)]
    simp only [filterMap_forward?, requestAll]
    simp only [Outcome.map, Outcome.andThen, Outcome.always, changed, announce, ← hb]

/-- The ambient logger is as before, and so are its flag and what is heard of its events. -/
structure Untouched (g h : Host) : Prop where
  ambient : h.ambient = g.ambient
  borrowed : h.borrowed = g.borrowed
  filter : h.filter = g.filter
  notices : h.notices = g.notices

theorem Untouched.refl (h : Host) : h.Untouched h := ⟨rfl, rfl, rfl, rfl⟩

theorem Untouched.trans {f g h : Host} (hf : f.Untouched g) (hg : g.Untouched h) :
    f.Untouched h where
  ambient := hg.ambient.trans hf.ambient
  borrowed := hg.borrowed.trans hf.borrowed
  filter := hg.filter.trans hf.filter
  notices := hg.notices.trans hf.notices

theorem Untouched.symm {g h : Host} (hu : g.Untouched h) : h.Untouched g :=
  ⟨hu.ambient.symm, hu.borrowed.symm, hu.filter.symm, hu.notices.symm⟩

theorem untouched_put (h : Host) (d : Delivery) : h.Untouched (h.put d) := by
  rw [put]
  cases d.sink <;> exact ⟨rfl, rfl, rfl, rfl⟩

theorem untouched_react {g h : Host} {s : Sink} {r : Reaction} (hr : g.react? s = some (r, h)) :
    g.Untouched h := by
  cases s with
  | output | errors => cases hr
  | device number =>
    obtain ⟨x, -, hx⟩ := Option.map_eq_some_iff.mp hr
    obtain ⟨-, rfl⟩ := Prod.mk.inj hx
    exact ⟨rfl, rfl, rfl, rfl⟩

theorem untouched_note (h : Host) (s : Sink) (reply : Reply) : h.Untouched (h.note s reply) := by
  rw [note]
  cases reply.note? with
  | none => exact .refl h
  | some line => exact h.untouched_put ⟨s, line⟩

end Host

structure Steady (R : Host → Host → Prop) : Prop where
  refl : ∀ h, R h h
  trans : ∀ {f g h}, R f g → R g h → R f h
  borrowed : ∀ {g h}, R g h → h.borrowed = g.borrowed
  put : ∀ h d, R h (h.put d)
  react : ∀ {g h s r}, Host.react? g s = some (r, h) → R g h
  request : ∀ h (r : Request), h.borrowed = false → R h (h.changed (r.perform h.ambient))

/-- An action from `h` ends as `R` says, and in a panic only if `h` is borrowed. -/
def Outcome.Along (R : Host → Host → Prop) (h : Host) (o : Outcome α) : Prop :=
  R h o.host ∧ (o.isPanic = true → h.borrowed = true)

variable {R : Host → Host → Prop}

theorem Outcome.along_done {g h : Host} (hg : R g h) (a : α) : (Outcome.done h a).Along R g :=
  ⟨hg, fun hp => absurd hp Bool.false_ne_true⟩

theorem Outcome.Along.isPanic {h : Host} {o : Outcome α} (ho : o.Along R h)
    (hb : h.borrowed = false) : o.isPanic = false := by
  rw [Bool.eq_false_iff]
  intro hp
  exact Bool.false_ne_true (hb.symm.trans (ho.2 hp))

namespace Steady

theorem after (hR : Steady R) {g h : Host} {o : Outcome α} (hg : R g h) (ho : o.Along R h) :
    o.Along R g := by
  refine ⟨hR.trans hg ho.1, fun hp => ?_⟩
  rw [← hR.borrowed hg]
  exact ho.2 hp

theorem andThen (hR : Steady R) {h : Host} {o : Outcome α} {next : Host → α → Outcome β}
    (ho : o.Along R h) (hn : ∀ g a, (next g a).Along R g) : (o.andThen next).Along R h := by
  cases o with
  | panicked g => exact ho
  | done g a => exact hR.after ho.1 (hn g a)

theorem map (hR : Steady R) {h : Host} {o : Outcome α} (f : α → β) (ho : o.Along R h) :
    (o.map f).Along R h :=
  hR.andThen ho fun g a => Outcome.along_done (hR.refl g) (f a)

section

variable {deliver : Delivery → Host → Outcome Unit}

theorem deliverAll (hR : Steady R) (hd : ∀ d h, (deliver d h).Along R h) (ds : List Delivery)
    (h : Host) : (Host.deliverAll deliver ds h).Along R h := by
  induction ds generalizing h with
  | nil => exact Outcome.along_done (hR.refl h) ()
  | cons d rest ih => exact hR.andThen (hd d h) fun g _ => ih g

theorem note (hR : Steady R) (h : Host) (s : Sink) (reply : Reply) : R h (h.note s reply) := by
  rw [Host.note]
  cases reply.note? with
  | none => exact hR.refl h
  | some line => exact hR.put h ⟨s, line⟩

theorem requestWith (hR : Steady R) (hd : ∀ d h, (deliver d h).Along R h) (r : Request)
    (h : Host) : (Host.requestWith deliver r h).Along R h := by
  cases hb : h.borrowed with
  | true =>
    rw [Host.requestWith_of_borrowed deliver r hb]
    exact ⟨hR.refl h, fun _ => hb⟩
  | false =>
    rw [Host.requestWith_of_free deliver r hb]
    exact hR.map _ (hR.after (hR.request h r hb) (hR.deliverAll hd _ _))

theorem requestsWith (hR : Steady R) (hd : ∀ d h, (deliver d h).Along R h) (s : Sink)
    (rs : List Request) (h : Host) : (Host.requestsWith deliver s rs h).Along R h := by
  induction rs generalizing h with
  | nil => exact Outcome.along_done (hR.refl h) ()
  | cons r rest ih =>
    exact hR.andThen (hR.requestWith hd r h) fun g reply => hR.after (hR.note g s reply) (ih _)

theorem reactWith (hR : Steady R) (hd : ∀ d h, (deliver d h).Along R h) (reaction : Reaction)
    (d : Delivery) (h : Host) : (Host.reactWith deliver reaction d h).Along R h := by
  rw [Host.reactWith]
  split
  · exact hR.andThen (hR.requestsWith hd d.sink reaction.requests h) fun g _ =>
      Outcome.along_done (hR.put g d) ()
  · exact hR.after (hR.put h d) (hR.requestsWith hd d.sink reaction.requests _)

end

theorem deliverWithin (hR : Steady R) (depth : Nat) (d : Delivery) (h : Host) :
    (Host.deliverWithin depth d h).Along R h := by
  -- on the depth to which reactions may still nest
  induction depth generalizing d h with
  | zero => exact Outcome.along_done (hR.put h d) ()
  | succ depth ih =>
    rw [Host.deliverWithin]
    cases hr : h.react? d.sink with
    | none => exact Outcome.along_done (hR.put h d) ()
    | some x => exact hR.after (hR.react hr) (hR.reactWith ih x.1 d x.2)

theorem deliver (hR : Steady R) (h : Host) (ds : List Delivery) : (h.deliver ds).Along R h :=
  hR.deliverAll (hR.deliverWithin _) ds h

theorem ask (hR : Steady R) (h : Host) (r : Request) : (h.request r).Along R h :=
  hR.requestWith (hR.deliverWithin _) r h

end Steady

end Logbook
