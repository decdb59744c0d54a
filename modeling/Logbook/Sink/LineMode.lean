import Logbook.Text.Lines

namespace Logbook

inductive LineMode where
  | terminated
  | verbatim
deriving DecidableEq, Inhabited

namespace LineMode

def ofBool (terminates : Bool) : LineMode :=
  if terminates then terminated else verbatim

def terminates : LineMode → Bool
  | terminated => true
  | verbatim => false

/-- A line feed that is already there is not repeated. -/
def needsTerminator (mode : LineMode) (text : String) : Bool :=
  mode.terminates && !Text.endsLine text

def frame (mode : LineMode) (text : String) : String :=
  if mode.needsTerminator text then text ++ "\n" else text

def constructorName : LineMode → String
  | terminated => "WithNewline"
  | verbatim => "WithoutNewline"

theorem ofBool_terminates (mode : LineMode) : ofBool mode.terminates = mode := by
  cases mode <;> rfl

end LineMode

end Logbook
