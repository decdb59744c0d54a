import Logbook.Tracing.Event

namespace Logbook.Tracing

structure Message where
  main : Option String := none
  others : String := ""

namespace Message

/-- A later message field replaces an earlier one. -/
def record (m : Message) (f : Field) : Message :=
  match f.value.render? with
  | none => m
  | some value =>
    if f.name = "message" then { m with main := some value }
    else { m with others := m.others ++ " " ++ f.name ++ "=" ++ value }

def ofFields (fields : List Field) : Message :=
  fields.foldl record {}

def text? (m : Message) : Option String :=
  m.main.map (· ++ m.others)

end Message

def Event.text? (e : Event) : Option String :=
  (Message.ofFields e.fields).text?

end Logbook.Tracing
