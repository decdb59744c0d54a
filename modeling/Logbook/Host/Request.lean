import Logbook.Json.Writer
import Logbook.Logger.Call

namespace Logbook

inductive Request where
  | reset
  | call (c : Call)

namespace Request

def perform : Request → Logger → Performance Reply
  | reset, _ => { value := .configured (.ok ()), logger := .initial }
  | call c, l => l.perform c

def capture (logPrefix errorPrefix : Option String) (maxMessages : Nat) : Request :=
  .call (.configure (.capture logPrefix errorPrefix maxMessages))

end Request

namespace Reply

def content? : Reply → Option Json.Value
  | nothing => none
  | number n => some (.ofNat n)
  | popped entry => entry.map fun e => .ofText e.text
  | copied (.ok c) => some (.ofNat c.length)
  | copied (.error fault) => some fault.toJson
  | drained texts => some (.array (texts.map .ofText))
  | configured (.ok ()) => some (.ofText "ok")
  | configured (.error fault) => some fault.toJson

def note? (r : Reply) : Option String :=
  r.content?.map fun v => "=> " ++ v.render

end Reply

end Logbook
