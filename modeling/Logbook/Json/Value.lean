import Logbook.Json.Token

/-!
JSON values and how they are built from tokens. Members keep their order and may repeat a name. The
containers that are still open are held in a list of frames, so that building takes one token at a
time.
-/

namespace Logbook.Json

/-- A number is kept as it is written. A string whose code units do not pair is no text. -/
inductive Value where
  | null
  | bool (b : Bool)
  | number (literal : List Char)
  | string (text : Option String)
  | array (items : List Value)
  | object (members : List (Option String × Value))

/-- An open container, what it holds so far in reverse. -/
inductive Frame where
  | array (items : List Value)
  | object (members : List (Option String × Value)) (name : Option String)

/-- What may follow: a value; an item or the end of an array; a name or the end of an object; a name
only; a colon; or what comes after a value. -/
inductive Build where
  | value (frames : List Frame)
  | firstItem (frames : List Frame)
  | firstName (frames : List Frame)
  | nextName (members : List (Option String × Value)) (frames : List Frame)
  | colon (members : List (Option String × Value)) (name : Option String) (frames : List Frame)
  | after (value : Value) (frames : List Frame)

namespace Build

def start (frames : List Frame) : Token → Option Build
  | .null => some (.after .null frames)
  | .bool b => some (.after (.bool b) frames)
  | .number literal => some (.after (.number literal) frames)
  | .string pieces => some (.after (.string (Piece.text? pieces)) frames)
  | .openArray => some (.firstItem frames)
  | .openObject => some (.firstName frames)
  | _ => none

def step : Build → Token → Option Build
  | .value frames, t => start frames t
  | .firstItem frames, .closeArray => some (.after (.array []) frames)
  | .firstItem frames, t => start (.array [] :: frames) t
  | .firstName frames, .closeObject => some (.after (.object []) frames)
  | .firstName frames, .string pieces => some (.colon [] (Piece.text? pieces) frames)
  | .nextName members frames, .string pieces => some (.colon members (Piece.text? pieces) frames)
  | .colon members name frames, .colon => some (.value (.object members name :: frames))
  | .after v (.array items :: frames), .comma => some (.value (.array (v :: items) :: frames))
  | .after v (.array items :: frames), .closeArray =>
    some (.after (.array (v :: items).reverse) frames)
  | .after v (.object members name :: frames), .comma => some (.nextName ((name, v) :: members) frames)
  | .after v (.object members name :: frames), .closeObject =>
    some (.after (.object ((name, v) :: members).reverse) frames)
  | _, _ => none

def finish : Build → Option Value
  | .after v [] => some v
  | _ => none

end Build

namespace Value

def ofTokens? (tokens : List Token) : Option Value :=
  (tokens.foldlM Build.step (.value [])).bind Build.finish

def read? (text : String) : Option Value :=
  (Token.scan? text.toList).bind ofTokens?

def ofText (text : String) : Value := .string (some text)

def ofNat (n : Nat) : Value := .number (Nat.toDigits 10 n)

def ofMembers (members : List (String × Value)) : Value :=
  .object (members.map fun (name, v) => (some name, v))

end Value

end Logbook.Json
