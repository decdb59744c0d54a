import Logbook.Severity
import Logbook.Text.Outline

namespace Logbook

structure Entry where
  severity : Severity
  origin : Option String
  text : String
deriving DecidableEq

namespace Entry

def render (e : Entry) (context : Bool) : String :=
  match e.origin, context with
  | some origin, true => origin ++ "() " ++ e.text
  | _, _ => e.text

def outline (e : Entry) : Text.Outline :=
  .record "LogEntry"
    [("level", .atom e.severity.constructorName),
      ("origin", .option .string e.origin),
      ("text", .string e.text)]
    true

end Entry

end Logbook
