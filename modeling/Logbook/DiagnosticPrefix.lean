import Logbook.Severity
import Logbook.Text.Outline

namespace Logbook

inductive DiagnosticPrefix where
  | bySeverity
  | custom (text : String)
deriving DecidableEq

namespace DiagnosticPrefix

/-- The empty text selects the prefixes by severity. -/
def ofText (text : String) : DiagnosticPrefix :=
  if text.isEmpty then bySeverity else custom text

def textFor : DiagnosticPrefix → Severity → String
  | bySeverity, s => s.defaultPrefix
  | custom text, _ => text

def isBySeverity : DiagnosticPrefix → Bool
  | bySeverity => true
  | custom _ => false

def text? : DiagnosticPrefix → Option String
  | bySeverity => none
  | custom text => some text

def outline : DiagnosticPrefix → Text.Outline
  | bySeverity => .atom "Default"
  | custom text => .wrapped "Custom" (.string text)

end DiagnosticPrefix

end Logbook
