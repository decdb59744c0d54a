namespace Logbook

inductive Outlet where
  | log
  | diagnostic
deriving DecidableEq

inductive Severity where
  | info
  | warning
  | error
deriving DecidableEq

namespace Severity

def all : List Severity := [info, warning, error]

def toNat : Severity → Nat
  | info => 0
  | warning => 1
  | error => 2

/-- Numbers from two on are errors, those below one informational. -/
def ofInt (level : Int) : Severity :=
  if level ≤ 0 then info else if level = 1 then warning else error

def outlet : Severity → Outlet
  | info => .log
  | warning => .diagnostic
  | error => .diagnostic

def isDiagnostic (s : Severity) : Bool :=
  s.outlet == .diagnostic

def defaultPrefix : Severity → String
  | info => ""
  | warning => "Warning: "
  | error => "Error: "

def label : Severity → String
  | info => "info"
  | warning => "warning"
  | error => "error"

def ofLabel? : String → Option Severity
  | "info" => some info
  | "warning" => some warning
  | "error" => some error
  | _ => none

def constructorName : Severity → String
  | info => "Info"
  | warning => "Warning"
  | error => "Error"

theorem ofInt_toNat (s : Severity) : ofInt s.toNat = s := by
  cases s <;> rfl

theorem ofLabel?_label (s : Severity) : ofLabel? s.label = some s := by
  cases s <;> rfl

end Severity

end Logbook
