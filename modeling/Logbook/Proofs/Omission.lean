import Logbook.Proofs.Reachable

namespace Logbook

/-- An informational message to a logger that keeps none. -/
def Request.passesBy (l : Logger) : Request → Bool
  | .call (.log .info _ _) => l.retention = .diagnosticsOnly || l.backlog.capacity = 0
  | _ => false

/-- A request in a run, with the logger that it finds. The request may be one to leave out. -/
structure Turn where
  found : Logger
  request : Request
  omitted : Bool

namespace Turn

def performance (t : Turn) : Performance Reply := t.request.perform t.found

def deliveries (ts : List Turn) : List Delivery := ts.flatMap fun t => t.performance.deliveries

def notices (ts : List Turn) : List Notice := ts.flatMap fun t => t.performance.notices

/-- The turns of a run, where each request comes with a mark if it is to be left out. -/
def ofRun (l : Logger) : List (Request × Bool) → List Turn
  | [] => []
  | (r, omitted) :: rest => ⟨l, r, omitted⟩ :: ofRun (r.perform l).logger rest

end Turn

namespace Logger

theorem perform_of_passesBy {l : Logger} {r : Request} (h : r.passesBy l = true) :
    ∃ origin message, r = .call (.log .info origin message) ∧
      r.perform l =
        { value := .nothing
          logger := l
          deliveries := [⟨l.logSink, l.logPrefix ++ Text.cut message textLimit⟩] } := by
  unfold Request.passesBy at h
  split at h
  · next origin message =>
    refine ⟨origin, message, rfl, ?_⟩
    have hk : l.keeps .info = false := by
      obtain hr | hc := Bool.or_eq_true_iff.mp h
      · rw [keeps, of_decide_eq_true hr]
        exact Bool.and_false _
      · rw [keeps, Backlog.isEnabled, of_decide_eq_true hc]
        rfl
    simp only [Request.perform, perform, log, hk, Performance.map]
    rfl
  · cases h

end Logger

namespace Turn

variable {l : Logger} {steps : List (Request × Bool)}

/-- The turns that are left are those of a run of what is left, and it ends with the same logger: a
message that is left out leaves the next request the logger that it found itself. -/
theorem ofRun_filter
    (h : ∀ t ∈ ofRun l steps, t.omitted = true → t.request.passesBy t.found = true) :
    ofRun l (steps.filter fun x => !x.2) = (ofRun l steps).filter (fun t => !t.omitted) ∧
      l.after ((steps.filter fun x => !x.2).map Prod.fst) = l.after (steps.map Prod.fst) := by
  induction steps generalizing l with
  | nil => exact ⟨rfl, rfl⟩
  | cons step rest ih =>
    obtain ⟨r, omitted⟩ := step
    obtain ⟨hr, hrest⟩ := List.forall_mem_cons.mp h
    obtain ⟨ht, ha⟩ := ih hrest
    cases omitted with
    | false => simp [ofRun, Logger.after, ht, ha]
    | true =>
      -- the next request finds the logger that the omitted one found
      obtain ⟨origin, message, -, hp⟩ := Logger.perform_of_passesBy (hr rfl)
      rw [hp] at ht ha
      simp [ofRun, Logger.after, ht, ha, hp]

theorem flatMap_filter_not {α β : Type} (p : α → Bool) (f : α → List β) (as : List α) :
    (as.filter fun a => !p a).flatMap f = as.flatMap fun a => if p a then [] else f a := by
  induction as with
  | nil => rfl
  | cons a rest ih => by_cases h : p a = true <;> simp [h, ih]

end Turn

/-- From a run some informational messages are left out, each of which goes to a logger that keeps
none at that moment. Every other request finds the same logger as before and gets the same answer, with
the same notices and the same deliveries. The whole run makes the same notices known, ends with the same
logger, and delivers the same but for the messages themselves, each of which the full run hands to the
log sink at once. -/
theorem Logger.run_apart_from_omitted (l : Logger) (steps : List (Request × Bool))
    (h : ∀ t ∈ Turn.ofRun l steps, t.omitted = true → t.request.passesBy t.found = true) :
    let kept := steps.filter fun x => !x.2
    let full := Turn.ofRun l steps
    let left := Turn.ofRun l kept
    left = full.filter (fun t => !t.omitted) ∧
      l.after (kept.map Prod.fst) = l.after (steps.map Prod.fst) ∧
      Turn.notices left = Turn.notices full ∧
      Turn.deliveries left =
        full.flatMap (fun t => if t.omitted then [] else t.performance.deliveries) ∧
      ∀ t ∈ full, t.omitted = true → ∃ origin message,
        t.request = .call (.log .info origin message) ∧
          t.performance.value = .nothing ∧ t.performance.logger = t.found ∧
          t.performance.deliveries =
            [⟨t.found.logSink, t.found.logPrefix ++ Text.cut message textLimit⟩] ∧
          t.performance.notices = [] := by
  intro kept full left
  have hf : left = full.filter fun t => !t.omitted := (Turn.ofRun_filter h).1
  have ho : ∀ t ∈ full, t.omitted = true → ∃ origin message,
      t.request = .call (.log .info origin message) ∧
        t.performance =
          { value := .nothing
            logger := t.found
            deliveries := [⟨t.found.logSink, t.found.logPrefix ++ Text.cut message textLimit⟩] } :=
    fun t ht hm => perform_of_passesBy (h t ht hm)
  refine ⟨hf, (Turn.ofRun_filter h).2, ?_, ?_, fun t ht hm => ?_⟩
  · rw [Turn.notices, Turn.notices, hf, Turn.flatMap_filter_not]
    apply List.flatMap_congr
    intro t ht
    by_cases hm : t.omitted = true
    · obtain ⟨origin, message, -, hp⟩ := ho t ht hm
      rw [if_pos hm, hp]
    · rw [if_neg hm]
  · rw [Turn.deliveries, hf, Turn.flatMap_filter_not]
  · obtain ⟨origin, message, hr, hp⟩ := ho t ht hm
    exact ⟨origin, message, hr, by rw [hp], by rw [hp], by rw [hp], by rw [hp]⟩

/-- Three messages are left out: two beside diagnostics that wait, one while nothing can wait. A fourth
one waits itself and stays. -/
theorem Logger.run_apart_from_three_omitted :
    let kept : List (Call × Bool) :=
      [(.configure { maxMessages := 1 }, false), (.log .info none "open", true),
        (.log .error none "first", false), (.log .info (some "reader") "ready", true),
        (.log .warning none "second", false), (.emit 0 false, false),
        (.configure { logPrefix := some "L: ", retention := some .all }, false),
        (.log .info none "close", true), (.log .info none "last", false),
        (.configure { maxMessages := 1 }, false), (.log .info none "waits", false), (.pop, false)]
    let steps := kept.map fun x => (Request.call x.1, x.2)
    let full := Turn.ofRun initial steps
    let left := Turn.ofRun initial (steps.filter fun x => !x.2)
    (∀ t ∈ full, t.omitted = true → t.request.passesBy t.found = true) ∧
      left = full.filter (fun t => !t.omitted) ∧
      (Turn.deliveries full).map Delivery.text =
        ["open", "ready", "Warning: second", "L: close", "L: last"] ∧
      (Turn.deliveries left).map Delivery.text = ["Warning: second", "L: last"] ∧
      Turn.notices left =
        [.configured 1 0, .evicted 1 1, .drained .emit 1 0, .configured 0 0, .configured 1 0,
          .drained .pop 1 0] := by
  intro kept steps full left
  have hp : ∀ t ∈ full, t.omitted = true → t.request.passesBy t.found = true := by decide +kernel
  obtain ⟨hl, -, hn, hd, -⟩ := run_apart_from_omitted initial steps hp
  exact ⟨hp, hl, by decide +kernel, (congrArg _ hd).trans (by decide +kernel),
    hn.trans (by decide +kernel)⟩

end Logbook
