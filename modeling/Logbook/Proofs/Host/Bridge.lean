import Logbook.Proofs.Forwarding
import Logbook.Proofs.Host.Program
import Logbook.Proofs.Host.Running

namespace Logbook

open Tracing

variable {heard : Event → Option Request} {α β : Type}

/-- The outcome `p` without the subscriber is `o` with it, and then events still lead to what
`heard` says. -/
structure Outcome.Tracks (heard : Event → Option Request) (o p : Outcome α) : Prop where
  hears : o.host.forward? = heard
  plain : p = o.always (Host.plain heard)

namespace Outcome

theorem tracks_done {h : Host} (hh : h.forward? = heard) (a : α) :
    (done h a).Tracks heard (done (h.plain heard) a) := ⟨hh, rfl⟩

theorem tracks_panicked {h : Host} (hh : h.forward? = heard) :
    (panicked h : Outcome α).Tracks heard (panicked (h.plain heard)) := ⟨hh, rfl⟩

theorem Tracks.andThen {o p : Outcome α} (hm : o.Tracks heard p) {f g : Host → α → Outcome β}
    (hf : ∀ h a, h.forward? = heard → (f h a).Tracks heard (g (h.plain heard) a)) :
    (o.andThen f).Tracks heard (p.andThen g) := by
  obtain ⟨hh, rfl⟩ := hm
  cases o with
  | panicked h => exact tracks_panicked hh
  | done h a => exact hf h a hh

theorem Tracks.map {o p : Outcome α} (hm : o.Tracks heard p) (f : α → β) :
    (o.map f).Tracks heard (p.map f) :=
  hm.andThen fun _ a hh => tracks_done hh (f a)

theorem Tracks.always {o p : Outcome α} (hm : o.Tracks heard p) {f : Host → Host}
    (hf : ∀ h, (f h).forward? = h.forward?)
    (hp : ∀ h, (f h).plain heard = f (h.plain heard)) :
    (o.always f).Tracks heard (p.always f) := by
  obtain ⟨hh, rfl⟩ := hm
  cases o with
  | panicked h | done h a =>
    refine ⟨(hf h).trans hh, ?_⟩
    simp only [Outcome.always, hp]

theorem map_andThen {γ : Type} (o : Outcome α) (f : α → β) (next : Host → β → Outcome γ) :
    (o.map f).andThen next = o.andThen fun h a => next h (f a) := by
  cases o <;> rfl

end Outcome

namespace Host

open Outcome

theorem forward?_put (h : Host) (d : Delivery) : (h.put d).forward? = h.forward? := by
  rw [put]
  cases d.sink <;> rfl

theorem forward?_note (h : Host) (s : Sink) (reply : Reply) :
    (h.note s reply).forward? = h.forward? := by
  rw [note]
  cases reply.note? with
  | none => rfl
  | some line => exact h.forward?_put ⟨s, line⟩

theorem forward?_of_react {g h : Host} {s : Sink} {r : Reaction} (hr : g.react? s = some (r, h)) :
    h.forward? = g.forward? := by
  cases s with
  | output | errors => cases hr
  | device number =>
    obtain ⟨x, -, hx⟩ := Option.map_eq_some_iff.mp hr
    obtain ⟨-, rfl⟩ := Prod.mk.inj hx
    rfl

theorem tracks_put {h : Host} (hh : h.forward? = heard) (d : Delivery) :
    (done (h.put d) ()).Tracks heard (done ((h.plain heard).put d) ()) := by
  rw [← plain_put]
  exact tracks_done ((h.forward?_put d).trans hh) ()

section

variable {deliver : Delivery → Host → Outcome Unit}
  (hd : ∀ d h, h.forward? = heard → (deliver d h).Tracks heard (deliver d (h.plain heard)))

include hd

theorem tracks_deliverAll (ds : List Delivery) {h : Host} (hh : h.forward? = heard) :
    (deliverAll deliver ds h).Tracks heard (deliverAll deliver ds (h.plain heard)) := by
  induction ds generalizing h with
  | nil => exact tracks_done hh ()
  | cons d rest ih => exact (hd d h hh).andThen fun _ _ hg => ih hg

theorem tracks_requestWith (r : Request) {h : Host} (hh : h.forward? = heard) :
    (requestWith deliver r h).Tracks heard (requestWith deliver r (h.plain heard)) := by
  cases hb : h.borrowed with
  | true =>
    have hp : (h.plain heard).borrowed = true := hb
    rw [requestWith_of_borrowed deliver r hb, requestWith_of_borrowed deliver r hp]
    exact tracks_panicked hh
  | false =>
    have hp : (h.plain heard).borrowed = false := hb
    rw [requestWith_of_free deliver r hb, requestWith_of_free deliver r hp]
    exact (tracks_deliverAll hd _ (h := h.changed _) hh).map _

theorem tracks_requestsWith (s : Sink) (rs : List Request) {h : Host} (hh : h.forward? = heard) :
    (requestsWith deliver s rs h).Tracks heard (requestsWith deliver s rs (h.plain heard)) := by
  induction rs generalizing h with
  | nil => exact tracks_done hh ()
  | cons r rest ih =>
    apply (tracks_requestWith hd r hh).andThen
    intro g reply hg
    rw [← plain_note]
    exact ih ((g.forward?_note s reply).trans hg)

theorem tracks_reactWith (reaction : Reaction) (d : Delivery) {h : Host}
    (hh : h.forward? = heard) :
    (reactWith deliver reaction d h).Tracks heard
      (reactWith deliver reaction d (h.plain heard)) := by
  rw [reactWith, reactWith]
  split
  · exact (tracks_requestsWith hd d.sink _ hh).andThen fun _ _ hg => tracks_put hg d
  · rw [← plain_put]
    exact tracks_requestsWith hd d.sink _ ((h.forward?_put d).trans hh)

end

theorem tracks_deliverWithin (depth : Nat) (d : Delivery) (h : Host) (hh : h.forward? = heard) :
    (deliverWithin depth d h).Tracks heard (deliverWithin depth d (h.plain heard)) := by
  -- on the depth to which reactions may still nest
  induction depth generalizing d h with
  | zero => exact tracks_put hh d
  | succ depth ih =>
    rw [deliverWithin, deliverWithin, react?_plain hh]
    cases hr : h.react? d.sink with
    | none => exact tracks_put hh d
    | some x => exact tracks_reactWith ih x.1 d ((forward?_of_react hr).trans hh)

theorem tracks_deliver {h : Host} (hh : h.forward? = heard) (ds : List Delivery) :
    (h.deliver ds).Tracks heard ((h.plain heard).deliver ds) := by
  rw [deliver, deliver, pendingCount_plain]
  exact tracks_deliverAll (tracks_deliverWithin _) ds hh

theorem tracks_request {h : Host} (hh : h.forward? = heard) (r : Request) :
    (h.request r).Tracks heard ((h.plain heard).request r) := by
  rw [request, request, pendingCount_plain]
  exact tracks_requestWith (tracks_deliverWithin _) r hh

theorem tracks_settle {h : Host} (hh : h.forward? = heard) (p : Performance α) :
    (h.settle p).Tracks heard ((h.plain heard).settle p) := by
  rw [settle_eq, settle_eq]
  exact (tracks_deliver (h := h.announce p.notices) hh p.deliveries).map _

theorem tracks_onAmbient {h : Host} (hh : h.forward? = heard) (c : Call) :
    (h.onAmbient c).Tracks heard ((h.plain heard).onAmbient c) :=
  tracks_settle (h := { h with ambient := (h.ambient.perform c).logger }) hh _

theorem tracks_borrowing {h : Host} (hh : h.forward? = heard) {f g : Host → Outcome α}
    (hf : ∀ k, k.forward? = heard → (f k).Tracks heard (g (k.plain heard))) :
    (h.borrowing f).Tracks heard ((h.plain heard).borrowing g) := by
  cases hb : h.borrowed with
  | true =>
    have hp : (h.plain heard).borrowed = true := hb
    rw [borrowing, borrowing, if_pos hb, if_pos hp]
    exact tracks_panicked hh
  | false =>
    have hp : (h.plain heard).borrowed = false := hb
    rw [borrowing, borrowing, if_neg (Bool.eq_false_iff.mp hb), if_neg (Bool.eq_false_iff.mp hp)]
    exact (hf { h with borrowed := true } hh).always (fun _ => rfl) fun _ => rfl

end Host

namespace Program

open Host Outcome

theorem tracks_run (p : Program) {h : Host} (hh : h.forward? = heard) :
    (p.run h).Tracks heard ((p.replaced heard).run (h.plain heard)) := by
  induction p generalizing h with
  | answer replies => exact tracks_done hh replies
  | raise e next ih =>
    rw [run, replaced, Host.raise, hh]
    -- the request stands where the event was
    cases heard e with
    | none => exact ih hh
    | some r =>
      rw [map_andThen]
      exact (tracks_request hh r).andThen fun _ _ hg => ih hg
  | request r next ih => exact (tracks_request hh r).andThen fun _ reply hg => ih reply hg
  | own l c next ih => exact (tracks_settle hh (l.perform c)).andThen fun _ reply hg => ih reply hg
  | held c next ih => exact (tracks_onAmbient hh c).andThen fun _ reply hg => ih reply hg
  | look next ih => exact ih h.ambient hh
  | replace l next ih => exact ih (h := { h with ambient := l }) hh
  | hand d next ih => exact (tracks_deliver hh [d]).andThen fun _ _ hg => ih hg
  | borrowing body next ih jh =>
    exact (tracks_borrowing hh fun _ hk => ih hk).andThen fun _ replies hg => jh replies hg
  | attempt body next ih jh =>
    obtain ⟨hk, hp⟩ := ih hh
    rw [run, replaced, run, hp]
    cases ho : body.run h with
    | done g replies =>
      rw [ho] at hk
      exact jh (some replies) hk
    | panicked g =>
      rw [ho] at hk
      exact jh none hk

end Program

theorem Host.forward?_of_all {h : Host} (hs : h.forwarding = true) (hf : h.filter = .upTo .trace) :
    h.forward? = Event.counterpart? := by
  funext e
  have ha : Filter.admits (.upTo .trace) e.verbosity = true := by
    cases e.verbosity <;> rfl
  rw [forward?, hs, hf, ha, request?_eq_counterpart?]
  rfl

namespace Program

/-- A program under a subscriber that hears everything comes to the same as the program with a
request in the place of each event that stands for one, and with no subscriber: the same answers and
panics, the same loggers and the same texts at the sinks. This includes the events that sinks raise.
Nothing is asked on hearing a notice, on whatever host. An event without a message stands for
nothing. -/
theorem run_eq_run_replaced (p : Program) {h : Host} (hs : h.forwarding = true)
    (hf : h.filter = .upTo .trace) :
    (p.replaced Event.counterpart?).run (h.plain Event.counterpart?) =
        (p.run h).always (Host.plain Event.counterpart?) ∧
      (∀ (g : Host) (n : Notice), g.forward? n.toEvent = none) ∧
      ∀ e : Event, e.text? = none ↔ ∀ f ∈ e.fields, f.name = "message" → f.value = .absent := by
  have hm := p.tracks_run (Host.forward?_of_all hs hf)
  exact ⟨hm.plain, Host.forward?_notice, Event.text?_eq_none_iff⟩

/-- The second event evicts the first. The sink that takes in the second one raises another, which
waits. The last event finds the ambient logger borrowed, and the program goes on after the panic. -/
theorem run_eq_run_replaced_of_five :
    let h : Host :=
      { devices :=
          [.instrumented [] [⟨[.raise ⟨.warn, "mseed", [⟨"message", .text "again"⟩]⟩], false⟩]]
        ambient := { Logger.initial with diagnosticSink := .device 0, backlog := ⟨1, []⟩ } }
    let p : Program :=
      .raise ⟨.warn, "mseed", [⟨"message", .text "short record"⟩]⟩ <|
      .raise ⟨.error, "mseed", [⟨"samples", .int 412⟩, ⟨"message", .text "CRC mismatch"⟩]⟩ <|
      .raise ⟨.error, "mslog::registry", [⟨"message", .text "internal"⟩]⟩ <|
      .request (.call (.emit 0 true)) fun reply =>
      .attempt
        (.borrowing (.raise ⟨.info, "mseed", [⟨"message", .text "inside"⟩]⟩ (.answer [])) .answer)
        fun replies => .answer [reply, .number replies.toList.length]
    let q : Program :=
      .request (.call (.log .warning (some "mseed") "short record")) fun _ =>
      .request (.call (.log .error (some "mseed") "CRC mismatch samples=412")) fun _ =>
      .request (.call (.emit 0 true)) fun reply =>
      .attempt
        (.borrowing
          (.request (.call (.log .info (some "mseed") "inside")) fun _ => .answer []) .answer)
        fun replies => .answer [reply, .number replies.toList.length]
    let g := h.plain Event.counterpart?
    h.forwarding = true ∧ h.filter = .upTo .trace ∧ p.replaced Event.counterpart? = q ∧
      g.devices =
        [.instrumented [] [⟨[.request (.call (.log .warning (some "mseed") "again"))], false⟩]] ∧
      (p.replaced Event.counterpart?).run g =
        .done
          { g with
            devices := [.instrumented ["mseed() Error: CRC mismatch samples=412"] []]
            ambient :=
              { h.ambient with backlog := ⟨1, [⟨.warning, some "mseed", "Warning: again"⟩]⟩ }
            notices := [.evicted 1 1, .drained .emit 1 0] }
          [.number 1, .number 0] := by
  exact ⟨rfl, rfl, rfl, rfl, (run_eq_run_replaced _ rfl rfl).1.trans rfl⟩

end Program

end Logbook
