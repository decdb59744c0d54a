import Logbook.Json.Number
import Logbook.Json.Piece

/-!
The tokens of a JSON text. A text is scanned one character at a time, so what the scanner does on
two texts in a row is what it does on the second from where the first left it.
-/

namespace Logbook.Json

inductive Token where
  | openObject
  | closeObject
  | openArray
  | closeArray
  | colon
  | comma
  | null
  | bool (b : Bool)
  | number (literal : List Char)
  | string (pieces : List Piece)
deriving DecidableEq

def isBlank (c : Char) : Bool :=
  c == ' ' || c == '\t' || c == '\n' || c == '\r'

def word? : List Char → Option Token
  | ['n', 'u', 'l', 'l'] => some .null
  | ['t', 'r', 'u', 'e'] => some (.bool true)
  | ['f', 'a', 'l', 's', 'e'] => some (.bool false)
  | _ => none

def number? (cs : List Char) : Option Token :=
  if isNumber cs then some (.number cs) else none

def hexDigit? (c : Char) : Option Nat :=
  if '0' ≤ c && c ≤ '9' then some (c.toNat - '0'.toNat)
  else if 'a' ≤ c && c ≤ 'f' then some (c.toNat - 'a'.toNat + 10)
  else if 'A' ≤ c && c ≤ 'F' then some (c.toNat - 'A'.toNat + 10)
  else none

def escaped? : Char → Option Char
  | '"' => some '"'
  | '\\' => some '\\'
  | '/' => some '/'
  | 'b' => some '\x08'
  | 'f' => some '\x0c'
  | 'n' => some '\n'
  | 'r' => some '\r'
  | 't' => some '\t'
  | _ => none

/-- Where the scanner stands. What a mode carries it carries in reverse; `unit` has read `digits` of
the four hexadecimal digits of a code unit. -/
inductive Mode where
  | between
  | word (read : List Char)
  | number (read : List Char)
  | string (read : List Piece)
  | escape (read : List Piece)
  | unit (read : List Piece) (digits : Nat) (code : Nat)

structure Scan where
  mode : Mode
  tokens : List Token

namespace Scan

def initial : Scan := ⟨.between, []⟩

def mark? : Char → Option Token
  | '{' => some .openObject
  | '}' => some .closeObject
  | '[' => some .openArray
  | ']' => some .closeArray
  | ':' => some .colon
  | ',' => some .comma
  | _ => none

def start (tokens : List Token) (c : Char) : Option Scan :=
  if isBlank c then some ⟨.between, tokens⟩
  else if c == '"' then some ⟨.string [], tokens⟩
  else if c.isLower then some ⟨.word [c], tokens⟩
  else if c.isDigit || c == '-' then some ⟨.number [c], tokens⟩
  else (mark? c).map fun t => ⟨.between, t :: tokens⟩

/-- A word or a number ends before the first character that cannot belong to it. -/
def step (s : Scan) (c : Char) : Option Scan :=
  match s.mode with
  | .between => start s.tokens c
  | .word read =>
    if c.isLower then some ⟨.word (c :: read), s.tokens⟩
    else (word? read.reverse).bind fun t => start (t :: s.tokens) c
  | .number read =>
    if inNumber c then some ⟨.number (c :: read), s.tokens⟩
    else (number? read.reverse).bind fun t => start (t :: s.tokens) c
  | .string read =>
    if c == '"' then some ⟨.between, .string read.reverse :: s.tokens⟩
    else if c == '\\' then some ⟨.escape read, s.tokens⟩
    else if c.val < 0x20 then none
    else some ⟨.string (.char c :: read), s.tokens⟩
  | .escape read =>
    if c == 'u' then some ⟨.unit read 0 0, s.tokens⟩
    else (escaped? c).map fun e => ⟨.string (.char e :: read), s.tokens⟩
  | .unit read digits code =>
    (hexDigit? c).map fun d =>
      let code := 16 * code + d
      if digits = 3 then ⟨.string (.unit code :: read), s.tokens⟩
      else ⟨.unit read (digits + 1) code, s.tokens⟩

def finish (s : Scan) : Option (List Token) :=
  match s.mode with
  | .between => some s.tokens.reverse
  | .word read => (word? read.reverse).map fun t => (t :: s.tokens).reverse
  | .number read => (number? read.reverse).map fun t => (t :: s.tokens).reverse
  | _ => none

end Scan

def Token.scan? (cs : List Char) : Option (List Token) :=
  (cs.foldlM Scan.step Scan.initial).bind Scan.finish

end Logbook.Json
