namespace Logbook.Json

inductive Piece where
  | char (c : Char)
  | unit (code : Nat)
deriving DecidableEq

namespace Piece

def isHigh (code : Nat) : Bool := 0xD800 ≤ code && code ≤ 0xDBFF

def isLow (code : Nat) : Bool := 0xDC00 ≤ code && code ≤ 0xDFFF

def joined (high low : Nat) : Char :=
  Char.ofNat (0x10000 + (high - 0xD800) * 0x400 + (low - 0xDC00))

/-- The characters of the pieces after a high code unit, if one is open. A high code unit has a low
one right behind it and a low one follows a high one; anything else is no text. -/
def charsAfter? : Option Nat → List Piece → Option (List Char)
  | none, [] => some []
  | some _, [] => none
  | none, .char c :: rest => (charsAfter? none rest).map (c :: ·)
  | some _, .char _ :: _ => none
  | none, .unit code :: rest =>
    if isHigh code then charsAfter? (some code) rest
    else if isLow code then none
    else (charsAfter? none rest).map (Char.ofNat code :: ·)
  | some high, .unit code :: rest =>
    if isLow code then (charsAfter? none rest).map (joined high code :: ·) else none

def text? (pieces : List Piece) : Option String :=
  (charsAfter? none pieces).map String.ofList

end Piece

end Logbook.Json
