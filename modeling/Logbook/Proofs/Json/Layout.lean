import Logbook.Proofs.Json.Grammar
import Mathlib.Data.List.Chain

namespace Logbook.Json

def codeUnit? (cs : List Char) : Option Nat :=
  cs.foldlM (fun code c => (hexDigit? c).map (16 * code + ·)) 0

/-- A piece stands for itself, or it is escaped by a letter or by four digits. -/
inductive Piece.Spelled : Piece → List Char → Prop
  | plain {c : Char} : c ≠ '"' → c ≠ '\\' → ¬c.val < 0x20 → Spelled (.char c) [c]
  | letter {c e : Char} : escaped? c = some e → Spelled (.char e) ['\\', c]
  | digits {a b c d : Char} {code : Nat} : codeUnit? [a, b, c, d] = some code →
      Spelled (.unit code) ['\\', 'u', a, b, c, d]

inductive Pieces.Spelled : List Piece → List Char → Prop
  | nil : Spelled [] []
  | cons {p ps cs ds} : p.Spelled cs → Spelled ps ds → Spelled (p :: ps) (cs ++ ds)

inductive Token.Spelled : Token → List Char → Prop
  | mark {c t} : Scan.mark? c = some t → Spelled t [c]
  | word {cs t} : word? cs = some t → Spelled t cs
  | number {cs} : isNumber cs = true → Spelled (.number cs) cs
  | string {ps cs} : Pieces.Spelled ps cs → Spelled (.string ps) ('"' :: (cs ++ ['"']))

/-- The tokens in their order, with any blanks before each of them and at the end. -/
inductive LaidOut : List Token → List Char → Prop
  | blanks {bs} : (∀ b ∈ bs, isBlank b = true) → LaidOut [] bs
  | token {bs t cs ts ds} : (∀ b ∈ bs, isBlank b = true) → t.Spelled cs → LaidOut ts ds →
      LaidOut (t :: ts) (bs ++ (cs ++ ds))

/-- The text is written for the value: with any blanks, and with every string spelled in any way. -/
def Value.Written (v : Value) (text : String) : Prop :=
  ∃ ts, Phrase.Formed (.value v) ts ∧ LaidOut ts text.toList

namespace Pieces

variable {ps : List Piece} {cs ds : List Char}

theorem spelled_singleton {p : Piece} (h : p.Spelled cs) : Spelled [p] cs := by
  simpa using Spelled.cons h .nil

theorem Spelled.concat {p : Piece} (h : Spelled ps cs) (hp : p.Spelled ds) :
    Spelled (ps ++ [p]) (cs ++ ds) := by
  induction h with
  | nil => exact spelled_singleton hp
  | cons hq _ ih => simpa using cons hq ih

end Pieces

namespace LaidOut

variable {t : Token} {ts us : List Token} {cs ds : List Char}

theorem nil : LaidOut [] [] := .blanks (by simp)

theorem of_spelled (h : t.Spelled cs) : LaidOut [t] cs := by
  simpa using token (List.forall_mem_nil _) h nil

theorem append (h : LaidOut ts cs) (h' : LaidOut us ds) : LaidOut (ts ++ us) (cs ++ ds) := by
  induction h with
  | @blanks bs hbs =>
    cases h' with
    | blanks hb => exact blanks (List.forall_mem_append.mpr ⟨hbs, hb⟩)
    | token hb ht h' =>
      rw [← List.append_assoc]
      exact token (List.forall_mem_append.mpr ⟨hbs, hb⟩) ht h'
  | token hbs ht _ ih => simpa using token hbs ht ih

theorem concat (h : LaidOut ts cs) (ht : t.Spelled ds) : LaidOut (ts ++ [t]) (cs ++ ds) :=
  h.append (of_spelled ht)

end LaidOut

def Token.isMark : Token → Bool
  | .openObject | .closeObject | .openArray | .closeArray | .colon | .comma => true
  | _ => false

def Separated (ts : List Token) : Prop :=
  ts.IsChain fun t u => t.isMark = true ∨ u.isMark = true

theorem Phrase.Formed.separated {p : Phrase} {ts : List Token} (h : p.Formed ts) : Separated ts := by
  induction h with
  | null | bool | number | string | emptyArray | emptyObject => simp [Separated, Token.isMark]
  | item _ ih => exact ih
  | _ => simp_all [Separated, List.isChain_append, List.isChain_cons, Token.isMark]

end Logbook.Json
