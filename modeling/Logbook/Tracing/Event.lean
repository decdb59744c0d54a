import Logbook.Decimal.Shortest
import Logbook.Text.Quoted

namespace Logbook.Tracing

inductive Verbosity where
  | error
  | warn
  | info
  | debug
  | trace
deriving DecidableEq

namespace Verbosity

def toNat : Verbosity → Nat
  | error => 1
  | warn => 2
  | info => 3
  | debug => 4
  | trace => 5

def label : Verbosity → String
  | error => "ERROR"
  | warn => "WARN"
  | info => "INFO"
  | debug => "DEBUG"
  | trace => "TRACE"

end Verbosity

inductive Filter where
  | off
  | upTo (most : Verbosity)
deriving DecidableEq

def Filter.admits : Filter → Verbosity → Bool
  | off, _ => false
  | upTo most, v => v.toNat ≤ most.toNat

/-- A text is recorded as it is and a quoted text in quotes; an absent value is not recorded. -/
inductive FieldValue where
  | text (text : String)
  | quoted (text : String)
  | int (n : Int)
  | bool (b : Bool)
  | float (x : Decimal.Binary)
  | absent

namespace FieldValue

def layout : Decimal.Layout where
  least := -4
  greatest := 15
  mark := 'e'
  nan := "NaN"
  infinity := "inf"

def render? : FieldValue → Option String
  | text t => some t
  | quoted t => some (Text.quoted t)
  | int n => some (toString n)
  | bool b => some (if b then "true" else "false")
  | float x => some (layout.write x)
  | absent => none

end FieldValue

structure Field where
  name : String
  value : FieldValue

structure Event where
  verbosity : Verbosity
  target : String
  fields : List Field

end Logbook.Tracing
