import Logbook.Host.Request
import Logbook.Tracing.Message

namespace Logbook.Tracing

def Verbosity.severity? : Verbosity → Option Severity
  | error => some .error
  | warn => some .warning
  | info => some .info
  | debug => none
  | trace => none

def ownName : List Char := ['m', 's', 'l', 'o', 'g']

def isOwnTarget (target : String) : Bool :=
  let rest := target.toList.drop ownName.length
  ownName.isPrefixOf target.toList &&
    (rest.isEmpty || [':', ':'].isPrefixOf rest || ['_'].isPrefixOf rest)

def Event.request? (e : Event) : Option Request :=
  if isOwnTarget e.target then none
  else do
    let severity ← e.verbosity.severity?
    let text ← e.text?
    return .call (.log severity (some e.target) text)

theorem isOwnTarget_notice (n : Notice) : isOwnTarget n.toEvent.target = true := by
  cases n <;> simp [isOwnTarget, Notice.toEvent, Notice.target, ownName]

/-- Notices are not forwarded, so a logger never hears of itself. -/
theorem request?_notice (n : Notice) : n.toEvent.request? = none := by
  simp [Event.request?, isOwnTarget_notice]

end Logbook.Tracing
