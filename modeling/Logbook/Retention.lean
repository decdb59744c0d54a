import Logbook.Severity

namespace Logbook

inductive Retention where
  | diagnosticsOnly
  | all
deriving DecidableEq, Inhabited

namespace Retention

def keeps : Retention → Severity → Bool
  | diagnosticsOnly, s => s.isDiagnostic
  | all, _ => true

def label : Retention → String
  | diagnosticsOnly => "diagnostics_only"
  | all => "all"

def ofLabel? : String → Option Retention
  | "diagnostics_only" => some diagnosticsOnly
  | "all" => some all
  | _ => none

def constructorName : Retention → String
  | diagnosticsOnly => "DiagnosticsOnly"
  | all => "All"

theorem ofLabel?_label (r : Retention) : ofLabel? r.label = some r := by
  cases r <;> rfl

end Retention

end Logbook
