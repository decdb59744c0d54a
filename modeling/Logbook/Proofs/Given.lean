import Logbook.Proofs.Reachable

namespace Logbook

/-- All that is given from a reset on, behind what was given earlier. -/
def Request.given (earlier : List (Settings Sink)) : List Request → List (Settings Sink)
  | [] => earlier
  | .reset :: rest => given [] rest
  | .call c :: rest => given (earlier ++ c.settings?.toList) rest

namespace Settings

variable {σ α : Type}

def last? (field : Settings σ → Option α) (ss : List (Settings σ)) : Option α :=
  (ss.filterMap field).getLast?

theorem last?_concat (field : Settings σ → Option α) (ss : List (Settings σ)) (s : Settings σ) :
    last? field (ss ++ [s]) = (field s).or (last? field ss) := by
  rw [last?, List.filterMap_append, List.getLast?_append, last?]
  cases h : field s <;> simp [h]

def acceptable (text? : Option String) : Option String :=
  text?.filter fun text => text.utf8ByteSize ≤ 200

theorem filter_fits (text? : Option String) : text?.filter fits = acceptable text? := rfl

def orElse (t s : Settings σ) : Settings σ where
  logSink := t.logSink.or s.logSink
  logPrefix := (acceptable t.logPrefix).or s.logPrefix
  diagnosticSink := t.diagnosticSink.or s.diagnosticSink
  diagnosticPrefix := (acceptable t.diagnosticPrefix).or s.diagnosticPrefix
  maxMessages := t.maxMessages
  retention := t.retention.or s.retention

end Settings

namespace Logger

def new (settings? : Option (Settings Sink)) : Logger :=
  settings?.elim .initial fun s => (ofSettings s).logger

/-- Each field is the last that was given for it, or else what a new logger has. Prefixes that are too
long do not count, and the empty text gives the prefixes by severity. The capacity is given each
time. -/
structure ComesFrom (l : Logger) (ss : List (Settings Sink)) : Prop where
  logSink : l.logSink = (Settings.last? Settings.logSink ss).getD (.output .terminated)
  logPrefix :
    l.logPrefix = (Settings.last? (fun s => Settings.acceptable s.logPrefix) ss).getD ""
  diagnosticSink :
    l.diagnosticSink = (Settings.last? Settings.diagnosticSink ss).getD (.errors .terminated)
  diagnosticPrefix :
    l.diagnosticPrefix =
      (Settings.last? (fun s => Settings.acceptable s.diagnosticPrefix) ss).elim .bySeverity
        fun text => if text = "" then .bySeverity else .custom text
  retention : l.retention = (Settings.last? Settings.retention ss).getD .diagnosticsOnly
  capacity : l.backlog.capacity = ss.getLast?.elim 0 Settings.maxMessages

theorem ofText_eq (text : String) :
    DiagnosticPrefix.ofText text = if text = "" then .bySeverity else .custom text := by
  simp only [DiagnosticPrefix.ofText, String.isEmpty_iff]

theorem comesFrom_initial : initial.ComesFrom [] := ⟨rfl, rfl, rfl, rfl, rfl, rfl⟩

namespace ComesFrom

variable {l : Logger} {ss : List (Settings Sink)}

theorem withEntries (h : l.ComesFrom ss) (es : List Entry) : (l.withEntries es).ComesFrom ss :=
  ⟨h.logSink, h.logPrefix, h.diagnosticSink, h.diagnosticPrefix, h.retention, h.capacity⟩

theorem applied (h : l.ComesFrom ss) (s : Settings Sink) :
    (l.applied s.accepted).ComesFrom (ss ++ [s]) where
  logSink := by
    rw [Settings.last?_concat, Option.getD_or, ← h.logSink]
    rfl
  logPrefix := by
    rw [Settings.last?_concat, Option.getD_or, ← h.logPrefix]
    rfl
  diagnosticSink := by
    rw [Settings.last?_concat, Option.getD_or, ← h.diagnosticSink]
    rfl
  diagnosticPrefix := by
    rw [Settings.last?_concat]
    -- the empty text is given like any other, and gives the prefixes by severity
    cases hs : Settings.acceptable s.diagnosticPrefix with
    | none =>
      rw [Option.none_or, ← h.diagnosticPrefix]
      simp only [Logger.applied, Settings.accepted, Settings.filter_fits, hs, Option.map_none,
        Option.getD_none]
    | some text =>
      simp only [Logger.applied, Settings.accepted, Settings.filter_fits, hs, Option.map_some,
        Option.getD_some, Option.some_or, Option.elim_some, ofText_eq]
  retention := by
    rw [Settings.last?_concat, Option.getD_or, ← h.retention]
    rfl
  capacity := by
    rw [List.getLast?_concat]
    rfl

end ComesFrom

theorem logger_perform_of_none (l : Logger) {c : Call} (hc : c.settings? = none) :
    ∃ es, (l.perform c).logger = l.withEntries es := by
  obtain ⟨s, hs, -⟩ | ⟨-, ⟨s, origin, message, -, hl⟩ | ⟨es, -, hl⟩⟩ := l.perform_cases c
  · exact absurd (hc.symm.trans hs) nofun
  · exact ⟨_, hl⟩
  · exact ⟨es, hl⟩

theorem ComesFrom.perform {l : Logger} {ss : List (Settings Sink)} (h : l.ComesFrom ss) (c : Call) :
    (l.perform c).logger.ComesFrom (ss ++ c.settings?.toList) := by
  cases hc : c.settings? with
  | none =>
    obtain ⟨es, hl⟩ := l.logger_perform_of_none hc
    rw [hl, Option.toList_none, List.append_nil]
    exact h.withEntries es
  | some s =>
    obtain ⟨t, ht, hl⟩ | ⟨hn, -⟩ := l.perform_cases c
    · rw [hl, ← Option.some.inj (ht.symm.trans hc)]
      exact h.applied t
    · exact absurd (hn.symm.trans hc) nofun

theorem ComesFrom.after {l : Logger} {ss : List (Settings Sink)} (h : l.ComesFrom ss)
    (rs : List Request) : (l.after rs).ComesFrom (Request.given ss rs) := by
  induction rs generalizing l ss with
  | nil => exact h
  | cons r rest ih =>
    cases r with
    | reset => exact ih comesFrom_initial
    | call c => exact ih (h.perform c)

theorem comesFrom_new (settings? : Option (Settings Sink)) :
    (new settings?).ComesFrom settings?.toList := by
  cases settings? with
  | none => exact comesFrom_initial
  | some s => exact comesFrom_initial.perform (.configure s)

theorem acceptable_or (a b : Option String) :
    Settings.acceptable ((Settings.acceptable a).or b) =
      (Settings.acceptable a).or (Settings.acceptable b) := by
  cases a with
  | none => rfl
  | some text =>
    by_cases ht : text.utf8ByteSize ≤ 200 <;> simp [Settings.acceptable, Option.filter, ht]

theorem applied_applied (l : Logger) (s t : Settings Sink) :
    (l.applied s.accepted).applied t.accepted = l.applied (t.orElse s).accepted := by
  simp only [applied, Settings.accepted, Settings.filter_fits, Settings.orElse, acceptable_or,
    Option.getD_or, Option.map_or]

/-- Whatever a logger went through, each of its settings is the last acceptable one that it was given,
and two configurations leave what one with the settings of both would. -/
theorem last_accepted_wins (settings? : Option (Settings Sink)) (rs : List Request) :
    let l := (new settings?).after rs
    l.ComesFrom (Request.given settings?.toList rs) ∧
      (∀ logPrefix errorPrefix maxMessages,
        Request.capture logPrefix errorPrefix maxMessages =
          .call (.configure ⟨some (.output .terminated), logPrefix, some (.errors .terminated),
            errorPrefix, maxMessages, none⟩)) ∧
      (∀ s : Settings Sink, Call.settings? (.configure s) = some s ∧
        Call.settings? (.start s) = some { s with maxMessages := 0 }) ∧
      (∀ c : Call, c.settings? = none → ∃ es, (l.perform c).logger = l.withEntries es) ∧
      ∀ s t, ((l.configure s).logger.configure t).logger = (l.configure (t.orElse s)).logger := by
  intro l
  refine ⟨(comesFrom_new settings?).after rs, fun _ _ _ => rfl, fun _ => ⟨rfl, rfl⟩,
    fun c hc => l.logger_perform_of_none hc, fun s t => ?_⟩
  rw [logger_configure, logger_configure, logger_configure, applied_applied]

/-- The prefix that is too long leaves the custom one in force, the empty one puts an end to it. -/
theorem last_accepted_wins_of_three_prefixes :
    let giving (text : String) : Settings Sink := { diagnosticPrefix := some text, maxMessages := 3 }
    let long : Settings Sink := giving (String.ofList (List.replicate 201 'x'))
    let first : List Request := [.call (.configure (giving "E: ")), .call (.log .error none "gap")]
    let second : List Request := first ++ [.call (.configure { long with maxMessages := 2 })]
    let third : List Request := second ++ [.call .drain, .call (.start (giving ""))]
    let last (rs : List Request) : Logger := (new (some (giving "old"))).after rs
    (last []).diagnosticPrefix = .custom "old" ∧ (last first).diagnosticPrefix = .custom "E: " ∧
      (last second).diagnosticPrefix = .custom "E: " ∧ (last second).backlog.capacity = 2 ∧
      (last third).diagnosticPrefix = .bySeverity ∧ (last third).backlog.capacity = 0 := by
  intro giving long first second third last
  have hw (rs : List Request) := (last_accepted_wins (some (giving "old")) rs).1
  exact ⟨(hw []).diagnosticPrefix.trans (by decide +kernel),
    (hw first).diagnosticPrefix.trans (by decide +kernel),
    (hw second).diagnosticPrefix.trans (by decide +kernel), (hw second).capacity.trans rfl,
    (hw third).diagnosticPrefix.trans (by decide +kernel), (hw third).capacity.trans rfl⟩

end Logger

end Logbook
