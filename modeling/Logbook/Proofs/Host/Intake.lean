import Logbook.Proofs.Cut
import Logbook.Proofs.Host.Access
import Logbook.Proofs.Host.Attribution
import Logbook.Proofs.Message

namespace Logbook

open Tracing

namespace Logger

/-- Without a capacity nothing waits, and informational messages wait only where all are kept. -/
def Waits (l : Logger) (s : Severity) : Prop :=
  l.backlog.capacity ≠ 0 ∧ (s = .info → l.retention = .all)

def lead (l : Logger) (s : Severity) : String :=
  match s, l.diagnosticPrefix with
  | .info, _ => l.logPrefix
  | .warning, .bySeverity => "Warning: "
  | .error, .bySeverity => "Error: "
  | _, .custom text => text

def addressed (l : Logger) (s : Severity) (text : String) : Delivery :=
  ⟨if s = .info then l.logSink else l.diagnosticSink, text⟩

variable {l : Logger} {s : Severity}

theorem keeps_iff_waits : l.keeps s = true ↔ l.Waits s := by
  rw [keeps, Backlog.isEnabled, Waits, Bool.and_eq_true, decide_eq_true_iff, Nat.pos_iff_ne_zero]
  apply and_congr_right
  intro _
  cases s <;> cases l.retention <;> decide

theorem prefixFor_eq_lead (l : Logger) (s : Severity) : l.prefixFor s = l.lead s := by
  unfold prefixFor lead
  cases s <;> cases l.diagnosticPrefix <;> rfl

theorem format_eq_lead (l : Logger) (s : Severity) (message : String) :
    l.format s message = l.lead s ++ Text.cut message 200 := by
  rw [← prefixFor_eq_lead]
  rfl

theorem log_of_waits (h : l.Waits s) (origin : Option String) (message : String) :
    (l.log s origin message).logger =
        l.withEntries ((l.backlog.entries ++
          [Entry.mk s origin (l.lead s ++ Text.cut message 200)]).rtake l.backlog.capacity) ∧
      (l.log s origin message).deliveries = [] := by
  have hk := keeps_iff_waits.mpr h
  rw [logger_log_of_keeps hk, entryOf, format_eq_lead]
  exact ⟨rfl, (log_of_keeps hk origin message).2⟩

theorem log_of_not_waits (h : ¬ l.Waits s) (origin : Option String) (message : String) :
    l.log s origin message =
      { value := ()
        logger := l
        deliveries := [l.addressed s (l.lead s ++ Text.cut message 200)] } := by
  have hk : l.keeps s = false := Bool.eq_false_iff.mpr fun hk => h (keeps_iff_waits.mp hk)
  have hs : l.sinkFor s = if s = .info then l.logSink else l.diagnosticSink := by
    cases s <;> rfl
  simp only [log, hk, Bool.false_eq_true, if_false, format_eq_lead, hs, addressed]

end Logger

theorem Request.perform_log_of_not_waits {l : Logger} {s : Severity} (h : ¬ l.Waits s)
    (origin : Option String) (message : String) :
    (Request.call (.log s origin message)).perform l =
      { value := .nothing
        logger := l
        deliveries := [l.addressed s (l.lead s ++ Text.cut message 200)] } := by
  rw [Request.perform, Logger.perform, Logger.log_of_not_waits h]
  rfl

namespace Host

variable {h : Host} {s : Severity}

/-- What becomes of a message that the ambient logger is asked to log, where `text` is what it makes of
it. The text waits as the newest entry and no sink hears of it, or it is handed over once, to its
sink, whatever this asks meanwhile. -/
structure TakesIn (h : Host) (s : Severity) (origin : Option String) (message text : String)
    (o : Outcome Unit) : Prop where
  kept : h.ambient.Waits s → ∃ g, o = .done g () ∧
    g.ambient = h.ambient.withEntries
      ((h.ambient.backlog.entries ++ [Entry.mk s origin text]).rtake h.ambient.backlog.capacity) ∧
    g.devices = h.devices ∧ g.output = h.output ∧ g.errors = h.errors
  delivered : ¬ h.ambient.Waits s →
    let t := history 0 [.call (.log s origin message)] h
    let d := h.ambient.addressed s text
    o = .done (h.playAll t) () ∧
      t.ofNumber 0 =
        [.asked 0 (.call (.log s origin message)), .called 0 d, .took 0 d, .answered 0 .nothing]
  delivered_of_quiet : ¬ h.ambient.Waits s → h.Quiet →
    o = .done (h.taken (h.ambient.addressed s text)) ()

theorem ofNumber_history (r : Request) (h : Host) :
    (history 0 [r] h).ofNumber 0 = History.script 0 r h.ambient := by
  have hr : ∃ rest, (history 0 [r] h).requests = r :: rest := ⟨_, rfl⟩
  obtain ⟨rest, hr⟩ := hr
  rw [(settled_history 0 [r] h).share 0, hr, History.scriptOf, if_pos rfl]

theorem request_of_single (hb : h.borrowed = false) (hq : h.Quiet) {r : Request} {a : Reply}
    {d : Delivery}
    (hr : r.perform h.ambient = { value := a, logger := h.ambient, deliveries := [d] }) :
    h.request r = .done (h.taken d) a := by
  have ha := (h.untouched_taken d).ambient
  refine (request_of_quiet hq hb r).trans ?_
  rw [hr, shown, announce, List.filter_nil, List.append_nil]
  exact congrArg (fun l => Outcome.done ((h.taken d).withAmbient l) a) ha.symm

theorem takesIn_request_log (hb : h.borrowed = false) (origin : Option String) (message : String) :
    h.TakesIn s origin message (h.ambient.lead s ++ Text.cut message 200)
      ((h.request (.call (.log s origin message))).map fun _ => ()) where
  kept hw := by
    -- nothing is delivered, so the change of the logger is all
    obtain ⟨hl, hd⟩ := Logger.log_of_waits hw origin message
    have hp : ((Request.call (.log s origin message)).perform h.ambient).deliveries = [] := hd
    rw [request, requestWith_of_free _ _ hb, hp]
    exact ⟨_, rfl, hl, rfl, rfl, rfl⟩
  delivered hw := by
    refine ⟨?_, ?_⟩
    · rw [request_eq_playAll _ hb]
      rfl
    · rw [ofNumber_history, History.script, Request.perform_log_of_not_waits hw]
      rfl
  delivered_of_quiet hw hq := by
    rw [request_of_single hb hq (Request.perform_log_of_not_waits hw origin message)]
    rfl

structure Hears (h : Host) (e : Event) (s : Severity) : Prop where
  forwarding : h.forwarding = true
  admits : h.filter.admits e.verbosity = true
  free : h.borrowed = false
  not_own : ¬ IsOwn e.target
  severity : e.verbosity.severity? = some s

theorem takesIn_raise {e : Event} {text : String} (he : h.Hears e s) (ht : e.text? = some text) :
    h.TakesIn s (some e.target) text (h.ambient.lead s ++ Text.cut text 200) (h.raise e) := by
  have hr : h.forward? e = some (.call (.log s (some e.target) text)) := by
    rw [forward?, he.forwarding, he.admits, Event.request?_of_text he.not_own he.severity ht]
    rfl
  rw [raise, hr]
  exact takesIn_request_log he.free (some e.target) text

end Host

namespace Tracing

/-- An event with one message field at most has no text exactly if it has none. Else its text is what the
field says and then the other fields in their order, wherever the field stands. The ambient logger
takes in the longest beginning of the text that fits into 200 bytes, behind the prefix of the outlet
and with the target as origin. -/
theorem Event.assembled_and_takenIn (e : Event)
    (hm : e.recorded.countP (fun f => f.1 = "message") ≤ 1) :
    (e.text? = none ↔ ∀ f ∈ e.recorded, f.1 ≠ "message") ∧
      ∀ earlier main later, e.recorded = earlier ++ ("message", main) :: later →
        let text := main ++ described (earlier ++ later)
        e.text? = some text ∧
          ∀ (h : Host) (s : Severity), h.Hears e s →
            ∃ body, Text.IsLongestWithin text 200 body ∧
              h.TakesIn s (some e.target) text (h.ambient.lead s ++ body) (h.raise e) := by
  refine ⟨e.text?_eq_none_iff_recorded, ?_⟩
  intro earlier main later hr text
  obtain ⟨hb, ha⟩ := forall_ne_of_countP_le_one hm hr
  have ht : e.text? = some text := text?_of_recorded hb ha hr
  refine ⟨ht, fun h s he => ?_⟩
  exact ⟨_, Text.isLongestWithin_cut text 200, Host.takesIn_raise he ht⟩

/-- One event waits in the place of an older entry, one is handed over with a quoted value in which a
character does not show, and of one the last character within 200 bytes does not fit. -/
theorem Event.assembled_and_takenIn_of_three :
    let failure : Event :=
      ⟨.error, "mseed::unpack",
        [⟨"samples", .int 412⟩, ⟨"message", .text "CRC mismatch"⟩, ⟨"gap", .bool true⟩]⟩
    let keeping : Host :=
      { ambient := { Logger.initial with backlog := ⟨1, [⟨.error, none, "Error: older"⟩]⟩ } }
    let doubt : Event :=
      ⟨.warn, "reader",
        [⟨"file", .quoted "a\u200b'\n"⟩, ⟨"size", .absent⟩, ⟨"message", .text "gap"⟩]⟩
    let printing : Host := { errors := "earlier\n" }
    let many : String := String.ofList (List.replicate 188 'x')
    let long : Event := ⟨.info, "reader", [⟨"message", .text "ready"⟩, ⟨"note", .text (many ++ "é")⟩]⟩
    let collecting : Host :=
      { devices := [.collecting ["earlier"]]
        ambient :=
          { Logger.initial with logSink := .device 0, logPrefix := "> ", backlog := .empty 4 } }
    let single (e : Event) : Prop := e.recorded.countP (fun f => f.1 = "message") ≤ 1
    (single failure ∧ keeping.Hears failure .error ∧ keeping.ambient.Waits .error ∧
      ∃ g, keeping.raise failure = .done g () ∧
        g.ambient.backlog.entries =
          [⟨.error, some "mseed::unpack", "Error: CRC mismatch samples=412 gap=true"⟩] ∧
        g.devices = [] ∧ g.output = "" ∧ g.errors = "") ∧
      (single doubt ∧ printing.Hears doubt .warning ∧ ¬ printing.ambient.Waits .warning ∧
        printing.Quiet ∧ ∃ g, printing.raise doubt = .done g () ∧
          g.errors = "earlier\nWarning: gap file=\"a\\u\x7b200b\x7d'\\n\"\n") ∧
      single long ∧ collecting.Hears long .info ∧ ¬ collecting.ambient.Waits .info ∧
        collecting.Quiet ∧ ∃ g, collecting.raise long = .done g () ∧
          g.devices = [.collecting ["earlier", "> " ++ ("ready note=" ++ many)]] := by
  intro failure keeping doubt printing many long collecting single
  refine ⟨?_, ?_, ?_⟩
  · have hm : single failure := by decide +kernel
    have he : keeping.Hears failure .error := ⟨rfl, rfl, rfl, by decide, rfl⟩
    have hw : keeping.ambient.Waits .error := ⟨by decide, nofun⟩
    obtain ⟨-, hk⟩ := (failure.assembled_and_takenIn hm).2 [("samples", "412")] "CRC mismatch"
      [("gap", "true")] (by decide +kernel)
    obtain ⟨body, hb, ht⟩ := hk keeping .error he
    have hx : keeping.ambient.lead .error ++ body = "Error: CRC mismatch samples=412 gap=true" := by
      rw [Text.isLongestWithin_iff.mp hb]
      decide +kernel
    rw [hx] at ht
    obtain ⟨g, hg, ha, hd, ho, hr⟩ := ht.kept hw
    exact ⟨hm, he, hw, g, hg, congrArg (·.backlog.entries) ha, hd, ho, hr⟩
  · have hm : single doubt := by decide +kernel
    have he : printing.Hears doubt .warning := ⟨rfl, rfl, rfl, by decide, rfl⟩
    have hw : ¬ printing.ambient.Waits .warning := fun h => h.1 rfl
    have hq : printing.Quiet := by simp [printing, Host.Quiet]
    obtain ⟨-, hk⟩ := (doubt.assembled_and_takenIn hm).2
      [("file", "\"a\\u\x7b200b\x7d'\\n\"")] "gap" [] (by decide +kernel)
    obtain ⟨body, hb, ht⟩ := hk printing .warning he
    rw [Text.isLongestWithin_iff.mp hb] at ht
    exact ⟨hm, he, hw, hq, _, ht.delivered_of_quiet hw hq, by decide +kernel⟩
  · have hm : single long := by decide +kernel
    have he : collecting.Hears long .info := ⟨rfl, rfl, rfl, by decide, rfl⟩
    have hw : ¬ collecting.ambient.Waits .info := fun h => nomatch h.2 rfl
    have hq : collecting.Quiet := by simp [collecting, Host.Quiet, Device.reactions]
    obtain ⟨-, hk⟩ := (long.assembled_and_takenIn hm).2 [] "ready" [("note", many ++ "é")] rfl
    obtain ⟨body, hb, ht⟩ := hk collecting .info he
    have hl (cs : List Char) :
        ("ready" ++ described ([] ++ [("note", String.ofList cs ++ "é")])).toList =
          "ready note=".toList ++ (cs ++ ['é']) := by
      simp [described]
    -- the last character needs the bytes 200 and 201
    have hf : Text.fitting 200 ("ready note=".toList ++ (List.replicate 188 'x' ++ ['é'])) =
        "ready note=".toList ++ List.replicate 188 'x' := by
      decide +kernel
    rw [Text.isLongestWithin_iff.mp hb,
      ← Text.isLongestWithin_iff.mp (Text.isLongestWithin_fitting _ 200), hl, hf,
      String.ofList_append, String.ofList_toList] at ht
    exact ⟨hm, he, hw, hq, _, ht.delivered_of_quiet hw hq, rfl⟩

end Tracing

end Logbook
