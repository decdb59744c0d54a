import Logbook.Proofs.Host.Quiet

namespace Logbook

/-- A step on the ambient logger: a request, or operations while it is borrowed. -/
inductive Access where
  | request (c : Call)
  | borrowing (cs : List Call)

def Access.calls : Access → List Call
  | request c => [c]
  | borrowing cs => cs

namespace Host

def heldAll : List Call → Host → Outcome (List Reply)
  | [], h => .done h []
  | c :: rest, h => (h.onAmbient c).andThen fun h reply => (heldAll rest h).map (reply :: ·)

def access : Access → Host → Outcome (List Reply)
  | .request c, h => (h.request (.call c)).map fun reply => [reply]
  | .borrowing cs, h => h.borrowing (heldAll cs)

def accessAll : List Access → Host → Outcome (List Reply)
  | [], h => .done h []
  | a :: rest, h => (access a h).andThen fun h replies => (accessAll rest h).map (replies ++ ·)

def ownAll : Logger → List Call → Host → Outcome (List Reply × Logger)
  | l, [], h => .done h ([], l)
  | l, c :: rest, h =>
    let p := l.perform c
    (h.settle p).andThen fun h reply =>
      (ownAll p.logger rest h).map fun (replies, l) => (reply :: replies, l)

variable {α : Type} {h : Host}

/-- The host once the texts of a performance have been handed over, in their order, and its notices
have been made known. -/
def shown (h : Host) (p : Performance α) : Host :=
  (p.deliveries.foldl taken h).announce p.notices

theorem Quiet.shown (hq : h.Quiet) (p : Performance α) : (h.shown p).Quiet :=
  hq.foldl_taken p.deliveries

theorem borrowed_shown (h : Host) (p : Performance α) : (h.shown p).borrowed = h.borrowed :=
  (h.untouched_foldl_taken p.deliveries).borrowed

theorem notices_shown (hf : h.filter = .upTo .trace) (p : Performance α) :
    (h.shown p).notices = h.notices ++ p.notices := by
  have hu := h.untouched_foldl_taken p.deliveries
  have ha : ∀ n : Notice, Tracing.Filter.admits (.upTo .trace) n.toEvent.verbosity = true := by
    intro n
    cases n <;> rfl
  rw [shown, announce, hu.notices, hu.filter, hf, funext ha]
  simp

theorem shown_withAmbient (h : Host) (l : Logger) (p : Performance α) :
    (h.withAmbient l).shown p = (h.shown p).withAmbient l :=
  congrArg (announce · p.notices) (List.foldl_hom (withAmbient · l) (taken_withAmbient l))

theorem shown_withFlag (h : Host) (b : Bool) (p : Performance α) :
    (h.withFlag b).shown p = (h.shown p).withFlag b :=
  congrArg (announce · p.notices) (List.foldl_hom (withFlag · b) (taken_withFlag b))

theorem foldl_taken_announce (h : Host) (ns : List Notice) (ds : List Delivery) :
    ds.foldl taken (h.announce ns) = (ds.foldl taken h).announce ns :=
  List.foldl_hom (announce · ns) (taken_announce ns)

theorem shown_append (h : Host) (p q : Performance (List Reply)) :
    h.shown (p.append q) = (h.shown p).shown q := by
  rw [shown, shown, shown, foldl_taken_announce]
  simp only [Performance.append, List.foldl_append, announce, List.filter_append,
    List.append_assoc]

theorem shown_run_nil (h : Host) (l : Logger) : h.shown (l.run []) = h := by
  simp [shown, announce, Logger.run]

theorem settle_of_quiet (hq : h.Quiet) (p : Performance α) :
    h.settle p = .done (h.shown p) p.value := by
  have hd : (h.announce p.notices).deliver p.deliveries = _ :=
    deliverAll_of_quiet (h := h.announce p.notices) hq (Nat.le_refl _) p.deliveries
  rw [settle_eq, hd, foldl_taken_announce]
  rfl

theorem request_reset (hb : h.borrowed = false) :
    h.request .reset = .done (h.withAmbient .initial) (.configured (.ok ())) := by
  have hr : h.request .reset = _ := requestWith_of_free _ .reset hb
  rw [hr, changed, announce]
  simp only [Request.perform, deliverAll, List.filter_nil, List.append_nil]
  rfl

theorem request_of_quiet (hq : h.Quiet) (hb : h.borrowed = false) (r : Request) :
    let p := r.perform h.ambient
    h.request r = .done ((h.shown p).withAmbient p.logger) p.value := by
  intro p
  have hs : h.request r = (h.withAmbient p.logger).settle p := by
    rw [settle_eq]
    exact requestWith_of_free _ r hb
  rw [hs, settle_of_quiet (h := h.withAmbient p.logger) hq, shown_withAmbient]

theorem onAmbient_of_quiet (hq : h.Quiet) (c : Call) :
    let p := h.ambient.perform c
    h.onAmbient c = .done ((h.shown p).withAmbient p.logger) p.value := by
  intro p
  have hs : h.onAmbient c = (h.withAmbient p.logger).settle p := rfl
  rw [hs, settle_of_quiet (h := h.withAmbient p.logger) hq, shown_withAmbient]

def performed (h : Host) (p : Performance α) : Outcome α :=
  .done ((h.shown p).withAmbient p.logger) p.value

theorem performed_append (h : Host) (p q : Performance (List Reply)) :
    (((h.shown p).withAmbient p.logger).performed q).map (p.value ++ ·) =
      h.performed (p.append q) := by
  rw [performed, performed, shown_withAmbient, shown_append]
  rfl

theorem heldAll_of_quiet (hq : h.Quiet) (cs : List Call) :
    heldAll cs h = h.performed (h.ambient.run cs) := by
  induction cs generalizing h with
  | nil =>
    rw [performed, shown_run_nil]
    rfl
  | cons c rest ih =>
    let p := h.ambient.perform c
    let g := (h.shown p).withAmbient p.logger
    have hg : heldAll rest g = g.performed (p.logger.run rest) := ih (hq.shown p)
    rw [heldAll, onAmbient_of_quiet hq c, Outcome.andThen, hg]
    exact h.performed_append (p.map fun reply => [reply]) (p.logger.run rest)

theorem access_of_quiet (hq : h.Quiet) (hb : h.borrowed = false) (a : Access) :
    access a h = h.performed (h.ambient.run a.calls) := by
  cases a with
  | request c =>
    rw [access, Access.calls, ← heldAll_of_quiet hq, heldAll, onAmbient_of_quiet hq,
      request_of_quiet hq hb]
    rfl
  | borrowing cs =>
    let p := h.ambient.run cs
    have hh : heldAll cs (h.withFlag true) = (h.withFlag true).performed p :=
      heldAll_of_quiet (h := h.withFlag true) hq cs
    have hf : (h.shown p).withFlag false = h.shown p := by
      rw [withFlag, ← (h.borrowed_shown p).trans hb]
    rw [performed, shown_withFlag] at hh
    rw [access, borrowing, if_neg (Bool.eq_false_iff.mp hb)]
    refine (congrArg (Outcome.always · fun g => g.withFlag false) hh).trans ?_
    exact congrArg (fun g : Host => Outcome.done (g.withAmbient p.logger) p.value) hf

theorem accessAll_of_quiet (hq : h.Quiet) (hb : h.borrowed = false) (as : List Access) :
    accessAll as h = h.performed (h.ambient.run (as.flatMap Access.calls)) := by
  induction as generalizing h with
  | nil =>
    rw [List.flatMap_nil, performed, shown_run_nil]
    rfl
  | cons a rest ih =>
    let p := h.ambient.run a.calls
    let g := (h.shown p).withAmbient p.logger
    have hg : accessAll rest g = g.performed (p.logger.run (rest.flatMap Access.calls)) :=
      ih (h := g) (hq.shown p) ((h.borrowed_shown p).trans hb)
    rw [accessAll, access_of_quiet hq hb, performed, Outcome.andThen, hg, List.flatMap_cons,
      Logger.run_append]
    exact h.performed_append p (p.logger.run (rest.flatMap Access.calls))

theorem ownAll_of_quiet (hq : h.Quiet) (l : Logger) (cs : List Call) :
    ownAll l cs h = .done (h.shown (l.run cs)) ((l.run cs).value, (l.run cs).logger) := by
  induction cs generalizing h l with
  | nil =>
    rw [shown_run_nil]
    rfl
  | cons c rest ih =>
    rw [ownAll, settle_of_quiet hq, Outcome.andThen, ih (hq.shown _), Logger.run_cons,
      shown_append]
    rfl

theorem accessAll_since_reset (hq : h.Quiet) (hb : h.borrowed = false) (as : List Access) :
    (h.request .reset).andThen (fun g _ => accessAll as g) =
      h.performed (Logger.initial.run (as.flatMap Access.calls)) := by
  have ha : accessAll as (h.withAmbient .initial) = _ :=
    accessAll_of_quiet (h := h.withAmbient .initial) hq hb as
  rw [request_reset hb, Outcome.andThen, ha, performed, shown_withAmbient]
  rfl

/-- From a new logger on, a sequence of operations has one outcome: the same answers, the same texts
to the same sinks in the same order, the same notices and the same logger in the end. It does not
matter which of the operations are requests, which are done while the ambient logger is borrowed,
alone or several at once, or whether all are done on a logger of one's own. -/
theorem same_by_any_access {h : Host} (hb : h.borrowed = false) (hq : h.Quiet) (as : List Access) :
    let cs := as.flatMap Access.calls
    let p := Logger.initial.run cs
    (h.request .reset).andThen (fun g _ => accessAll as g) =
        .done ((h.shown p).withAmbient p.logger) p.value ∧
      ownAll .initial cs h = .done (h.shown p) (p.value, p.logger) := by
  exact ⟨accessAll_since_reset hq hb as, ownAll_of_quiet hq .initial _⟩

theorem same_by_any_access_of_mixed :
    let h : Host :=
      { devices := [.collecting [], .callback ["earlier"] [(2, ⟨[], true⟩)]]
        ambient := { Logger.initial with logPrefix := "old" } }
    let given : Settings Sink :=
      { logSink := some (.device 0), diagnosticSink := some (.device 1), maxMessages := 1 }
    let as : List Access :=
      [.request (.configure given),
        .borrowing [.log .error none "first", .log .info none "ready", .log .warning none "second"],
        .request (.emit 0 false)]
    let g : Host :=
      { devices :=
          [.collecting ["ready"], .callback ["earlier", "Warning: second"] [(1, ⟨[], true⟩)]]
        notices := [.configured 1 0, .evicted 1 1, .drained .emit 1 0] }
    let l : Logger :=
      { Logger.initial with
        logSink := .device 0
        diagnosticSink := .device 1
        backlog := .empty 1 }
    let replies : List Reply := [.configured (.ok ()), .nothing, .nothing, .nothing, .number 1]
    h.borrowed = false ∧ h.Quiet ∧
      (h.request .reset).andThen (fun k _ => accessAll as k) =
        .done { g with ambient := l } replies ∧
      ownAll .initial (as.flatMap Access.calls) h =
        .done { g with ambient := h.ambient } (replies, l) := by
  have hq : Quiet
      { devices := [.collecting [], .callback ["earlier"] [(2, ⟨[], true⟩)]]
        ambient := { Logger.initial with logPrefix := "old" } } := by
    simp [Quiet, Device.reactions, Pending.reactions]
  exact ⟨rfl, hq, (same_by_any_access rfl hq _).1.trans rfl,
    (same_by_any_access rfl hq _).2.trans rfl⟩

end Host

end Logbook
