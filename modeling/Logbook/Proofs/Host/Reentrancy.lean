import Logbook.Proofs.Host.Activity
import Logbook.Proofs.Host.Pending

namespace Logbook

/-- A sink that a request calls finds the ambient logger free. -/
def Moment.Guarded : Moment → Prop
  | request active _ outcome => outcome.isPanic = true ↔ active = true
  | sink active caller h => h.borrowed = active ∧ (caller = .request → h.borrowed = false)

namespace Host

/-- From a host with the right flag on, the moments are guarded and no further borrowing begins. -/
def Guards (active : Bool) (moments : Host → List Moment) : Prop :=
  ∀ h : Host, h.borrowed = active → ∀ m ∈ moments h, m.Guarded ∧ m.active = active

variable {active : Bool}

theorem guards_nil : Guards active fun _ => [] := fun _ _ _ hm => absurd hm List.not_mem_nil

theorem guarded_next {α : Type} {h : Host} {o : Outcome α} {moments : Host → α → List Moment}
    (hb : h.borrowed = active) (ho : o.Along Later h)
    (hm : ∀ a, Guards active fun g => moments g a) :
    ∀ m ∈ o.next moments, m.Guarded ∧ m.active = active := by
  cases o with
  | panicked g => exact fun m hn => absurd hn List.not_mem_nil
  | done g a => exact hm a g (ho.1.borrowed.trans hb)

section

variable {deliver : Delivery → Host → Outcome Unit} {moments : Delivery → Host → List Moment}
  (hd : ∀ d h, (deliver d h).Along Later h) (hm : ∀ d, Guards active (moments d))

include hd hm

theorem guards_momentsOfAll {caller : Caller} (hc : caller = .request → active = false)
    (ds : List Delivery) : Guards active (momentsOfAll active deliver moments caller ds) := by
  induction ds with
  | nil => exact guards_nil
  | cons d rest ih =>
    intro h hb
    rw [momentsOfAll, List.forall_mem_append, List.forall_mem_cons]
    refine ⟨⟨⟨⟨hb, fun hr => hb.trans (hc hr)⟩, rfl⟩, hm d h hb⟩, ?_⟩
    exact guarded_next hb (hd d h) fun _ => ih

theorem guards_momentsOfRequest (r : Request) :
    Guards active (momentsOfRequest active deliver moments r) := by
  intro h hb
  rw [momentsOfRequest, List.forall_mem_cons]
  cases active with
  | true =>
    rw [if_pos hb, requestWith_of_borrowed deliver r hb]
    exact ⟨⟨Iff.rfl, rfl⟩, guards_nil h hb⟩
  | false =>
    have hp := (steady_later.requestWith hd r h).2
    rw [hb] at hp
    rw [if_neg (Bool.eq_false_iff.mp hb)]
    refine ⟨⟨⟨hp, fun ha => absurd ha Bool.false_ne_true⟩, rfl⟩, ?_⟩
    exact guards_momentsOfAll hd hm (fun _ => rfl) _ (h.changed (r.perform h.ambient)) hb

theorem guards_momentsOfRequests (s : Sink) (rs : List Request) :
    Guards active (momentsOfRequests active deliver moments s rs) := by
  induction rs with
  | nil => exact guards_nil
  | cons r rest ih =>
    intro h hb
    rw [momentsOfRequests, List.forall_mem_append]
    refine ⟨guards_momentsOfRequest hd hm r h hb, ?_⟩
    refine guarded_next hb (steady_later.requestWith hd r h) fun reply g hg => ?_
    exact ih _ ((steady_later.note g s reply).borrowed.trans hg)

theorem guards_momentsOfReaction (reaction : Reaction) (d : Delivery) :
    Guards active (momentsOfReaction active deliver moments reaction d) := by
  intro h hb
  refine guards_momentsOfRequests hd hm d.sink reaction.requests _ ?_
  split
  · exact hb
  · exact (steady_later.put h d).borrowed.trans hb

end

theorem guards_momentsWithin (depth : Nat) (d : Delivery) :
    Guards active (momentsWithin active depth d) := by
  -- on the depth to which reactions may still nest
  induction depth generalizing d with
  | zero => exact guards_nil
  | succ depth ih =>
    intro h hb
    rw [momentsWithin]
    cases hr : h.react? d.sink with
    | none => exact guards_nil h hb
    | some x =>
      have hx := (steady_later.react hr).borrowed.trans hb
      exact guards_momentsOfReaction (steady_later.deliverWithin depth) ih x.1 d x.2 hx

theorem guarded_momentsOfAsking {h : Host} (hb : h.borrowed = active) (r : Request) :
    ∀ m ∈ h.momentsOfAsking active r, m.Guarded ∧ m.active = active :=
  guards_momentsOfRequest (steady_later.deliverWithin _) (guards_momentsWithin _) r h hb

theorem guarded_momentsOfSettling {α : Type} {h : Host} (hb : h.borrowed = active)
    (p : Performance α) : ∀ m ∈ h.momentsOfSettling active p, m.Guarded ∧ m.active = active := by
  have hc : Caller.method = .request → active = false := fun hc => nomatch hc
  exact guards_momentsOfAll (steady_later.deliverWithin _) (guards_momentsWithin _) hc
    p.deliveries (h.announce p.notices) hb

theorem along_settle {α : Type} (h : Host) (p : Performance α) : (h.settle p).Along Later h := by
  have ha : Later h (h.announce p.notices) := ⟨rfl, Nat.le_refl _⟩
  rw [settle_eq]
  exact steady_later.map _ (steady_later.after ha (steady_later.deliver _ p.deliveries))

end Host

namespace Activity

open Host

theorem along_onAmbient (h : Host) (c : Call) : (h.onAmbient c).Along Later h := by
  have hp : Later h { h with ambient := (h.ambient.perform c).logger } := ⟨rfl, Nat.le_refl _⟩
  exact steady_later.after hp (along_settle _ (h.ambient.perform c))

theorem borrowed_run (a : Activity) (h : Host) : (a.run h).host.borrowed = h.borrowed := by
  induction a generalizing h with
  | nothing => rfl
  | request r => exact (steady_later.map _ (steady_later.ask h r)).1.borrowed
  | own l c => exact (steady_later.map _ (along_settle h (l.perform c))).1.borrowed
  | held c => exact (steady_later.map _ (along_onAmbient h c)).1.borrowed
  | replace l => rfl
  | borrowing body _ =>
    rw [run, Host.borrowing]
    split
    · rfl
    · next hb =>
      cases body.run { h with borrowed := true } <;> exact (Bool.eq_false_iff.mpr hb).symm
  | andThen first second ih jh =>
    have hf := ih h
    rw [run]
    cases ho : first.run h with
    | panicked g =>
      rw [ho] at hf
      exact hf
    | done g _ =>
      rw [ho] at hf
      exact (jh g).trans hf
  | attempt body ih => exact ih h

theorem guarded_moments (a : Activity) {active : Bool} {h : Host} (hb : h.borrowed = active) :
    ∀ m ∈ a.moments active h, m.Guarded ∧ (a.neverBorrows = true → m.active = active) := by
  induction a generalizing active h with
  | nothing | replace => exact fun m hm => absurd hm List.not_mem_nil
  | request r =>
    intro m hm
    have hg := guarded_momentsOfAsking hb r m hm
    exact ⟨hg.1, fun _ => hg.2⟩
  | own l c =>
    intro m hm
    have hg := guarded_momentsOfSettling hb (l.perform c) m hm
    exact ⟨hg.1, fun _ => hg.2⟩
  | held c =>
    intro m hm
    let g := { h with ambient := (h.ambient.perform c).logger }
    have hg := guarded_momentsOfSettling (show g.borrowed = active from hb) (h.ambient.perform c) m hm
    exact ⟨hg.1, fun _ => hg.2⟩
  | borrowing body ih =>
    intro m hm
    refine ⟨?_, fun hn => absurd hn Bool.false_ne_true⟩
    rw [moments] at hm
    -- if the flag is up already the body is not begun
    split at hm
    · exact absurd hm List.not_mem_nil
    · exact (@ih true _ rfl m hm).1
  | andThen first second ih jh =>
    have hf := borrowed_run first h
    rw [moments, List.forall_mem_append]
    refine ⟨fun m hm => ?_, fun m hm => ?_⟩
    · have hg := ih hb m hm
      exact ⟨hg.1, fun hn => hg.2 (Bool.and_eq_true_iff.mp hn).1⟩
    · cases ho : first.run h with
      | panicked g =>
        rw [ho] at hm
        exact absurd hm List.not_mem_nil
      | done g _ =>
        rw [ho] at hm hf
        have hg := jh (hf.trans hb) m hm
        exact ⟨hg.1, fun hn => hg.2 (Bool.and_eq_true_iff.mp hn).2⟩
  | attempt body ih => exact ih hb

theorem isPanic_run (a : Activity) (ha : a.neverBorrows = true) {h : Host}
    (hb : h.borrowed = false) : (a.run h).isPanic = false := by
  induction a generalizing h with
  | nothing | replace | attempt => rfl
  | request r => exact (steady_later.map _ (steady_later.ask h r)).isPanic hb
  | own l c => exact (steady_later.map _ (along_settle h (l.perform c))).isPanic hb
  | held c => exact (steady_later.map _ (along_onAmbient h c)).isPanic hb
  | borrowing body _ => exact absurd ha Bool.false_ne_true
  | andThen first second ih jh =>
    obtain ⟨hf, hs⟩ := Bool.and_eq_true_iff.mp ha
    have hp := ih hf hb
    have hg := borrowed_run first h
    rw [run]
    cases ho : first.run h with
    | panicked g =>
      rw [ho] at hp
      exact hp
    | done g _ =>
      rw [ho] at hg
      exact jh hs (hg.trans hb)

/-- Whatever the sinks ask and however deep they nest, a request panics if and only if a borrowing is
going on. No step leaves the ambient logger borrowed, and without borrowings none panics. -/
theorem guarded_of_steps (h : Host) (hb : h.borrowed = false) (steps : List Activity) :
    (∀ m ∈ momentsOfSteps steps h, m.Guarded) ∧
      (∀ o ∈ outcomes steps h, o.host.borrowed = false) ∧
      ((∀ a ∈ steps, a.neverBorrows = true) →
        (∀ o ∈ outcomes steps h, o.isPanic = false) ∧
          ∀ m ∈ momentsOfSteps steps h, m.active = false) := by
  induction steps generalizing h with
  | nil => simp [momentsOfSteps, outcomes]
  | cons a rest ih =>
    have hg := guarded_moments a hb
    have hr := (a.borrowed_run h).trans hb
    obtain ⟨hm, ho, hq⟩ := ih (a.run h).host hr
    rw [momentsOfSteps, outcomes]
    simp only [List.forall_mem_append, List.forall_mem_cons]
    refine ⟨⟨fun m hx => (hg m hx).1, hm⟩, ⟨hr, ho⟩, fun hn => ?_⟩
    obtain ⟨hp, hs⟩ := hq hn.2
    exact ⟨⟨a.isPanic_run hn.1 hb, hp⟩, fun m hx => (hg m hx).2 hn.1, hs⟩

theorem guarded_of_callback :
    let ask : Request := .call (.log .info none "again")
    let h : Host :=
      { devices := [.callback [] [(3, ⟨[ask, .reset], true⟩)]]
        ambient := { Logger.initial with logSink := .device 0 } }
    let steps : List Activity :=
      [.borrowing (.held (.log .info none "held")), .borrowing (.request ask), .request ask]
    h.borrowed = false ∧
      (outcomes steps h).map Outcome.isPanic = [true, true, false] ∧
      (momentsOfSteps steps h).map Moment.active =
        [true, true, true, false, false, false, false, false, false, false, false] ∧
      (∀ m ∈ momentsOfSteps steps h, m.Guarded) ∧
      (∀ o ∈ outcomes steps h, o.host.borrowed = false) ∧
      ∀ o ∈ outcomes [.request ask] h, o.isPanic = false := by
  intro ask h steps
  have hg := guarded_of_steps h rfl steps
  have hn : ∀ a ∈ [Activity.request ask], a.neverBorrows = true := by decide
  exact ⟨rfl, by decide, by decide, hg.1, hg.2.1, ((guarded_of_steps h rfl _).2.2 hn).1⟩

end Activity

end Logbook
