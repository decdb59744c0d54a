import Logbook.DiagnosticPrefix
import Logbook.Entry
import Logbook.Settings
import Logbook.Json.Writer

namespace Logbook

namespace Json.Value

/-- The name of a choice without content: as a string, or as an object with nothing under it. -/
def choice? : Value → Option String
  | .string text => text
  | .object [(name, .null)] => name
  | _ => none

def text? : Value → Option String
  | .string text => text
  | _ => none

def optionalText? : Value → Option (Option String)
  | .null => some none
  | .string (some text) => some (some text)
  | _ => none

def nat? : Value → Option Nat
  | .number literal =>
    if literal.all Char.isDigit then some (Nat.ofDigitChars 10 literal 0) else none
  | _ => none

def ofOptionalText : Option String → Value
  | none => .null
  | some text => .ofText text

/-- The member of a name, if there is one; a name that occurs twice has no meaning. -/
def member? (name : String) (members : List (Option String × Value)) : Option (Option Value) :=
  match members.filter (fun m => m.1 == some name) with
  | [] => some none
  | [m] => some (some m.2)
  | _ => none

def hasNames (members : List (Option String × Value)) : Bool :=
  members.all fun m => m.1.isSome

end Json.Value

open Json

def Severity.toJson (s : Severity) : Value := .ofText s.label

def Severity.ofJson? (v : Value) : Option Severity :=
  v.choice?.bind Severity.ofLabel?

def Retention.toJson (r : Retention) : Value := .ofText r.label

def Retention.ofJson? (v : Value) : Option Retention :=
  v.choice?.bind Retention.ofLabel?

def DiagnosticPrefix.toJson : DiagnosticPrefix → Value
  | .bySeverity => .ofText "Default"
  | .custom text => .ofMembers [("Custom", .ofText text)]

/-- An empty custom text stays custom. -/
def DiagnosticPrefix.ofJson? : Value → Option DiagnosticPrefix
  | .object [(some "Custom", .string (some text))] => some (.custom text)
  | v => if v.choice? = some "Default" then some .bySeverity else none

namespace Entry

def toJson (e : Entry) : Value :=
  .ofMembers
    [("level", e.severity.toJson), ("origin", .ofOptionalText e.origin), ("text", .ofText e.text)]

def ofFields? (severity origin text : Value) : Option Entry := do
  return ⟨← Severity.ofJson? severity, ← origin.optionalText?, ← text.text?⟩

/-- Only the origin may be missing from an object, and nothing from an array. -/
def ofJson? : Value → Option Entry
  | .object members => do
    guard (Value.hasNames members)
    let severity ← Value.member? "level" members
    let origin ← Value.member? "origin" members
    let text ← Value.member? "text" members
    ofFields? (← severity) (origin.getD .null) (← text)
  | .array [severity, origin, text] => ofFields? severity origin text
  | _ => none

end Entry

namespace HostSettings

def toJson (s : HostSettings) : Value :=
  .ofMembers
    [("log_prefix", .ofOptionalText s.logPrefix),
      ("error_prefix", .ofOptionalText s.errorPrefix),
      ("max_messages", .ofNat s.maxMessages.toNat),
      ("policy", s.retention.toJson)]

def capacity? (v : Value) : Option UInt64 :=
  v.nat?.bind fun n => if n < UInt64.size then some n.toUInt64 else none

def ofFields? (logPrefix errorPrefix maxMessages retention : Option Value) :
    Option HostSettings := do
  return {
    logPrefix := ← (logPrefix.map Value.optionalText?).getD (some none)
    errorPrefix := ← (errorPrefix.map Value.optionalText?).getD (some none)
    maxMessages := ← (maxMessages.map capacity?).getD (some 0)
    retention := ← (retention.map Retention.ofJson?).getD (some .diagnosticsOnly) }

/-- An array may leave out fields at its end. -/
def ofJson? : Value → Option HostSettings
  | .object members => do
    guard (Value.hasNames members)
    let logPrefix ← Value.member? "log_prefix" members
    let errorPrefix ← Value.member? "error_prefix" members
    let maxMessages ← Value.member? "max_messages" members
    let retention ← Value.member? "policy" members
    ofFields? logPrefix errorPrefix maxMessages retention
  | .array items =>
    if items.length ≤ 4 then ofFields? items[0]? items[1]? items[2]? items[3]? else none
  | _ => none

end HostSettings

end Logbook
