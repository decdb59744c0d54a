import Logbook.Json.Writer
import Logbook.Proofs.Json.Scanning
import Logbook.Proofs.Json.Tokens

namespace Logbook.Json

theorem hexDigit?_digitChar : ∀ d < 16, hexDigit? (Nat.digitChar d) = some d := by
  decide

theorem spelled_escapeChar (c : Char) : (Piece.ofChar c).Spelled (escapeChar c) := by
  unfold escapeChar
  split
  · exact .letter rfl
  · exact .letter rfl
  · exact .letter rfl
  · exact .letter rfl
  · exact .letter rfl
  · exact .letter rfl
  · exact .letter rfl
  · next hq hb h8 hc hn hr ht =>
    split
    · next h =>
      have hl : c.toNat < 0x20 := h
      have hp : Piece.ofChar c = .unit c.toNat := by
        simp only [Piece.ofChar, h, decide_true, Bool.true_and]
        simpa using ⟨h8, hc, hn, hr, ht⟩
      have hhigh := hexDigit?_digitChar (c.toNat / 16) (by omega)
      have hlow := hexDigit?_digitChar (c.toNat % 16) (by omega)
      have hz : hexDigit? '0' = some 0 := rfl
      have hd : 16 * (c.toNat / 16) + c.toNat % 16 = c.toNat := Nat.div_add_mod _ _
      rw [hp]
      exact .digits (by simp [codeUnit?, hz, hhigh, hlow, hd])
    · next h =>
      rw [show Piece.ofChar c = .char c by simp [Piece.ofChar, h]]
      exact .plain hq hb h

theorem spelled_writeString (text : Option String) :
    Token.Spelled (.string (Piece.ofText text)) (writeString text) := by
  cases text with
  | none => exact .string (Pieces.spelled_singleton (.digits rfl))
  | some text =>
    apply Token.Spelled.string
    rw [Piece.ofText]
    induction text.toList with
    | nil => exact .nil
    | cons c cs ih => exact .cons (spelled_escapeChar c) ih

namespace LaidOut

variable {c : Char} {t : Token} {ts us : List Token} {cs ds : List Char}

theorem mark (h : LaidOut ts cs) (hc : Scan.mark? c = some t) (h' : LaidOut us ds) :
    LaidOut (ts ++ t :: us) (cs ++ c :: ds) :=
  h.append (append (of_spelled (.mark hc)) h')

end LaidOut

mutual

theorem laidOut_write : ∀ v : Value,
    (∀ literal, .number literal ∈ v.tokens → isNumber literal = true) → LaidOut v.tokens v.write
  | .null, _ => .of_spelled (.word rfl)
  | .bool true, _ => .of_spelled (.word rfl)
  | .bool false, _ => .of_spelled (.word rfl)
  | .number literal, h => .of_spelled (.number (h literal (List.mem_singleton_self _)))
  | .string text, _ => .of_spelled (spelled_writeString text)
  | .array items, h => by
    have hi := laidOut_writeItems items fun literal hm => h literal (by simp [Value.tokens, hm])
    exact LaidOut.nil.mark rfl (hi.mark rfl .nil)
  | .object members, h => by
    have hm := laidOut_writeMembers members fun literal hm => h literal (by simp [Value.tokens, hm])
    exact LaidOut.nil.mark rfl (hm.mark rfl .nil)

theorem laidOut_writeItems : ∀ items : List Value,
    (∀ literal, .number literal ∈ Value.itemTokens items → isNumber literal = true) →
      LaidOut (Value.itemTokens items) (Value.writeItems items)
  | [], _ => .nil
  | [v], h => laidOut_write v h
  | v :: w :: rest, h => by
    have hv := laidOut_write v fun literal hm => h literal (by simp [Value.itemTokens, hm])
    have hr := laidOut_writeItems (w :: rest) fun literal hm =>
      h literal (by simp [Value.itemTokens, hm])
    exact hv.mark rfl hr

theorem laidOut_writeMembers : ∀ members : List (Option String × Value),
    (∀ literal, .number literal ∈ Value.memberTokens members → isNumber literal = true) →
      LaidOut (Value.memberTokens members) (Value.writeMembers members)
  | [], _ => .nil
  | [(name, v)], h => by
    have hv := laidOut_write v fun literal hm => h literal (by simp [Value.memberTokens, hm])
    exact (LaidOut.of_spelled (spelled_writeString name)).mark rfl hv
  | (name, v) :: next :: rest, h => by
    have hv := laidOut_write v fun literal hm => h literal (by simp [Value.memberTokens, hm])
    have hr := laidOut_writeMembers (next :: rest) fun literal hm =>
      h literal (by simp [Value.memberTokens, hm])
    have hn := LaidOut.of_spelled (spelled_writeString name)
    simpa [Value.writeMembers, Value.memberTokens] using
      hn.mark (c := ':') rfl (hv.mark (c := ',') rfl hr)

end

namespace Value

def Readable (v : Value) : Prop :=
  ∀ literal, .number literal ∈ v.tokens → isNumber literal = true

theorem Readable.written {v : Value} (h : v.Readable) : v.Written v.render := by
  refine ⟨v.tokens, formed_tokens v, ?_⟩
  rw [render, String.toList_ofList]
  exact laidOut_write v h

theorem read?_render {v : Value} (h : v.Readable) : read? v.render = some v :=
  read?_eq_some_iff.mpr h.written

end Value

end Logbook.Json
