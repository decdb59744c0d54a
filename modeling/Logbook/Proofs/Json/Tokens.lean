import Logbook.Proofs.Json.Grammar

namespace Logbook.Json

namespace Piece

def ofChar (c : Char) : Piece :=
  if c.val < 0x20 && !(['\x08', '\x0c', '\n', '\r', '\t'].contains c) then .unit c.toNat else .char c

def ofText : Option String → List Piece
  | some text => text.toList.map ofChar
  | none => [.unit 0xD800]

theorem charsAfter?_ofChar (c : Char) (rest : List Piece) :
    charsAfter? none (ofChar c :: rest) = (charsAfter? none rest).map (c :: ·) := by
  unfold ofChar
  split
  · next h =>
    have hc : c.toNat < 0x20 := by
      simp only [Bool.and_eq_true, decide_eq_true_eq] at h
      exact h.1
    have hh : isHigh c.toNat = false := by
      simp only [isHigh, Bool.and_eq_false_iff, decide_eq_false_iff_not]
      omega
    have hl : isLow c.toNat = false := by
      simp only [isLow, Bool.and_eq_false_iff, decide_eq_false_iff_not]
      omega
    simp [charsAfter?, hh, hl, Char.ofNat_toNat]
  · rfl

theorem text?_ofText (text : Option String) : text? (ofText text) = text := by
  cases text with
  | none => rfl
  | some text =>
    have hc : ∀ cs : List Char, charsAfter? none (cs.map ofChar) = some cs := by
      intro cs
      induction cs with
      | nil => rfl
      | cons c cs ih => rw [List.map_cons, charsAfter?_ofChar, ih, Option.map_some]
    rw [text?, ofText, hc, Option.map_some, String.ofList_toList]

end Piece

namespace Value

mutual

def tokens : Value → List Token
  | .null => [.null]
  | .bool b => [.bool b]
  | .number literal => [.number literal]
  | .string text => [.string (Piece.ofText text)]
  | .array items => .openArray :: (itemTokens items ++ [.closeArray])
  | .object members => .openObject :: (memberTokens members ++ [.closeObject])

def itemTokens : List Value → List Token
  | [] => []
  | [v] => tokens v
  | v :: w :: rest => tokens v ++ .comma :: itemTokens (w :: rest)

def memberTokens : List (Option String × Value) → List Token
  | [] => []
  | [(name, v)] => .string (Piece.ofText name) :: .colon :: tokens v
  | (name, v) :: next :: rest =>
    .string (Piece.ofText name) :: .colon :: (tokens v ++ .comma :: memberTokens (next :: rest))

end

mutual

theorem formed_tokens : ∀ v : Value, Phrase.Formed (.value v) v.tokens
  | .null => .null
  | .bool b => .bool b
  | .number literal => .number literal
  | .string text => by
    simpa [tokens, Piece.text?_ofText] using Phrase.Formed.string (Piece.ofText text)
  | .array items => by
    have hi := formed_itemTokens items
    cases items with
    | nil => exact .emptyArray
    | cons v rest => exact .array (hi (List.cons_ne_nil v rest))
  | .object members => by
    have hm := formed_memberTokens members
    cases members with
    | nil => exact .emptyObject
    | cons m rest => exact .object (hm (List.cons_ne_nil m rest))

theorem formed_itemTokens : ∀ items : List Value, items ≠ [] →
    Phrase.Formed (.items items) (itemTokens items)
  | [], h => absurd rfl h
  | [v], _ => .item (formed_tokens v)
  | v :: w :: rest, _ =>
    .items (formed_tokens v) (formed_itemTokens (w :: rest) (List.cons_ne_nil w rest))

theorem formed_memberTokens : ∀ members : List (Option String × Value), members ≠ [] →
    Phrase.Formed (.members members) (memberTokens members)
  | [], h => absurd rfl h
  | [(name, v)], _ => by
    simpa [memberTokens, Piece.text?_ofText] using
      Phrase.Formed.member (Piece.ofText name) (formed_tokens v)
  | (name, v) :: next :: rest, _ => by
    have hr := formed_memberTokens (next :: rest) (List.cons_ne_nil next rest)
    simpa [memberTokens, Piece.text?_ofText] using
      Phrase.Formed.members (Piece.ofText name) (formed_tokens v) hr

end

end Value

end Logbook.Json
