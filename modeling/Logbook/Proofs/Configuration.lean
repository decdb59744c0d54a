import Logbook.Logger.Call

namespace Logbook

def fits (text : String) : Bool := text.utf8ByteSize ≤ textLimit

def refusal? (outlet : Outlet) (text? : Option String) : Option ConfigFault :=
  (text?.filter fun text => !fits text).map fun text => .prefixTooLong outlet text.utf8ByteSize

namespace Settings

variable {σ : Type}

def refused (s : Settings σ) : List ConfigFault :=
  (refusal? .log s.logPrefix).toList ++ (refusal? .diagnostic s.diagnosticPrefix).toList

theorem eq_of_mem_refused {s : Settings σ} {f : ConfigFault} (h : f ∈ s.refused) :
    ∃ outlet length, f = .prefixTooLong outlet length ∧ textLimit < length := by
  have hr : ∀ outlet text?, f ∈ (refusal? outlet text?).toList →
      ∃ outlet length, f = .prefixTooLong outlet length ∧ textLimit < length := by
    intro outlet text? hf
    obtain ⟨text, ht, rfl⟩ := Option.map_eq_some_iff.mp (Option.mem_toList.mp hf)
    refine ⟨outlet, _, rfl, ?_⟩
    simpa [fits] using (Option.filter_eq_some_iff.mp ht).2
  obtain hl | hd := List.mem_append.mp h
  · exact hr .log s.logPrefix hl
  · exact hr .diagnostic s.diagnosticPrefix hd

def accepted (s : Settings σ) : Settings σ :=
  { s with
    logPrefix := s.logPrefix.filter fits
    diagnosticPrefix := s.diagnosticPrefix.filter fits }

end Settings

/-- The settings that a call applies. A logger starts without a backlog. -/
def Call.settings? : Call → Option (Settings Sink)
  | configure s => some s
  | start s => some s.unbuffered
  | _ => none

namespace Logger

def applied (l : Logger) (s : Settings Sink) : Logger where
  logSink := s.logSink.getD l.logSink
  logPrefix := s.logPrefix.getD l.logPrefix
  diagnosticSink := s.diagnosticSink.getD l.diagnosticSink
  diagnosticPrefix := (s.diagnosticPrefix.map .ofText).getD l.diagnosticPrefix
  retention := s.retention.getD l.retention
  backlog := .empty s.maxMessages

variable (l : Logger)

theorem logger_setPrefix (outlet : Outlet) (text? : Option String) :
    (l.setPrefix outlet text?).logger =
      (text?.filter fits).elim l (l.withPrefix · outlet) := by
  cases text? with
  | none => rfl
  | some text => by_cases h : text.utf8ByteSize ≤ textLimit <;> simp [setPrefix, fits, h, Option.filter]

theorem deliveries_setPrefix (outlet : Outlet) (text? : Option String) :
    (l.setPrefix outlet text?).deliveries = (refusal? outlet text?).toList.map l.report := by
  cases text? with
  | none => rfl
  | some text =>
    by_cases h : text.utf8ByteSize ≤ textLimit <;>
      simp [setPrefix, refusal?, fits, h, Option.filter]

theorem logger_configure (s : Settings Sink) : (l.configure s).logger = l.applied s.accepted := by
  simp only [configure, logger_setPrefix]
  cases hp : s.logPrefix.filter fits <;> cases hd : s.diagnosticPrefix.filter fits <;>
    simp [applied, Settings.accepted, withSinks, withPrefix, hp, hd]

theorem deliveries_configure (s : Settings Sink) :
    (l.configure s).deliveries = s.refused.map (l.withSinks s).report := by
  have hr : ∀ f, ((l.withSinks s).setPrefix .log s.logPrefix).logger.report f =
      (l.withSinks s).report f := by
    intro f
    rw [logger_setPrefix]
    cases s.logPrefix.filter fits <;> rfl
  simp only [configure, deliveries_setPrefix, Settings.refused, List.map_append]
  rw [funext hr]

theorem logger_start (s : Settings Sink) :
    (l.start s).logger = l.applied s.unbuffered.accepted :=
  logger_configure l s.unbuffered

theorem deliveries_start (s : Settings Sink) :
    (l.start s).deliveries = s.refused.map (l.withSinks s).report :=
  deliveries_configure l s.unbuffered

end Logger

end Logbook
