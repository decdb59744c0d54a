import Logbook.Sink.LineMode
import Logbook.Text.Outline

namespace Logbook

inductive WriteFault where
  | closed
deriving DecidableEq

def WriteFault.message : WriteFault → String
  | closed => "closed"

/-- One write takes as many bytes as there is room for, and only a full stream refuses it. A stream
without a bound takes everything. -/
structure Writer where
  mode : LineMode
  room : Option Nat
  written : List UInt8
deriving DecidableEq

namespace Writer

def bytes (text : String) : List UInt8 := text.toByteArray.data.toList

def isFull (w : Writer) : Bool := w.room == some 0

def accepts (w : Writer) (count : Nat) : Nat :=
  match w.room with
  | none => count
  | some room => min room count

def advance (w : Writer) (data : List UInt8) (count : Nat) : Writer :=
  { w with
    room := w.room.map (· - count)
    written := w.written ++ data.take count }

theorem accepts_pos {w : Writer} (h : w.isFull = false) {count : Nat} (hc : 0 < count) :
    0 < w.accepts count := by
  unfold accepts
  cases hr : w.room with
  | none => exact hc
  | some room =>
    have : room ≠ 0 := fun h0 => by simp [isFull, hr, h0] at h
    simp only
    omega

theorem sub_accepts_lt {w : Writer} (h : w.isFull = false) {data : List UInt8} (hd : data ≠ []) :
    data.length - w.accepts data.length < data.length := by
  have hl := List.length_pos_iff.2 hd
  have ha := accepts_pos h hl
  omega

def writeAll (w : Writer) (data : List UInt8) : Writer × Except WriteFault Unit :=
  if hd : data = [] then (w, .ok ())
  else if hf : w.isFull = true then (w, .error .closed)
  else
    have := sub_accepts_lt (Bool.eq_false_iff.2 hf) hd
    writeAll (w.advance data (w.accepts data.length)) (data.drop (w.accepts data.length))
termination_by data.length

/-- Writes the text, and its line feed once all of the text is written. -/
def writeText (w : Writer) (text : String) : Writer × Except WriteFault Unit :=
  match w.writeAll (bytes text) with
  | (w, .error fault) => (w, .error fault)
  | (w, .ok ()) =>
    if w.mode.needsTerminator text then w.writeAll (bytes "\n") else (w, .ok ())

def accept (w : Writer) (text : String) : Writer :=
  (w.writeText text).1

def writeTexts (w : Writer) : List String → Writer × List (Except WriteFault Unit)
  | [] => (w, [])
  | text :: rest =>
    let (w, result) := w.writeText text
    let (w, results) := writeTexts w rest
    (w, result :: results)

def acceptAll (w : Writer) (texts : List String) : Writer :=
  texts.foldl accept w

def flush (w : Writer) : Except WriteFault Unit :=
  if w.isFull then .error .closed else .ok ()

def outline (w : Writer) : Text.Outline :=
  .record "WriterSink" [("line_mode", .atom w.mode.constructorName)] false

end Writer

end Logbook
