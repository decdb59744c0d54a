/-!
Cutting a text to a limit of bytes without splitting a character. Limits count UTF-8 bytes, so the
cut first looks backwards from the limit for a place where a character starts or the text ends.
-/

namespace Logbook.Text

def isBoundary (text : String) (i : Nat) : Bool :=
  String.Pos.Raw.isValid text ⟨i⟩

/-- The last boundary at or before byte `i`. Stepping below the first byte would find none. -/
def boundaryAtOrBefore? (text : String) : Nat → Option Nat
  | 0 => if isBoundary text 0 then some 0 else none
  | i + 1 => if isBoundary text (i + 1) then some (i + 1) else boundaryAtOrBefore? text i

/-- The first `n` bytes of the text, where they are whole characters. -/
def upTo? (text : String) (n : Nat) : Option String :=
  if h : isBoundary text n = true then
    some (text.sliceTo (text.pos ⟨n⟩ (String.Pos.Raw.isValid_eq_true_iff.1 h))).copy
  else none

def cut? (text : String) (limit : Nat) : Option String :=
  if text.utf8ByteSize ≤ limit then some text
  else (boundaryAtOrBefore? text limit).bind (upTo? text)

theorem isBoundary_zero (text : String) : isBoundary text 0 = true := by
  simp only [isBoundary, String.Pos.Raw.isValid_eq_true_iff]
  exact String.Pos.Raw.isValid_zero

theorem exists_boundaryAtOrBefore? (text : String) (i : Nat) :
    ∃ n ≤ i, boundaryAtOrBefore? text i = some n ∧ isBoundary text n = true := by
  induction i with
  | zero => exact ⟨0, Nat.le_refl 0, by simp [boundaryAtOrBefore?, isBoundary_zero], isBoundary_zero text⟩
  | succ i ih =>
    obtain ⟨n, hn, h, hb⟩ := ih
    by_cases hi : isBoundary text (i + 1) = true
    · exact ⟨i + 1, Nat.le_refl _, by simp [boundaryAtOrBefore?, hi], hi⟩
    · exact ⟨n, Nat.le_succ_of_le hn, by simp [boundaryAtOrBefore?, hi, h], hb⟩

theorem isSome_upTo? {text : String} {n : Nat} (h : isBoundary text n = true) :
    (upTo? text n).isSome = true := by
  simp [upTo?, h]

theorem isSome_cut? (text : String) (limit : Nat) : (cut? text limit).isSome = true := by
  unfold cut?
  split
  · rfl
  · obtain ⟨n, -, h, hb⟩ := exists_boundaryAtOrBefore? text limit
    simpa [h] using isSome_upTo? hb

def cut (text : String) (limit : Nat) : String :=
  (cut? text limit).get (isSome_cut? text limit)

theorem cut?_eq_some_cut (text : String) (limit : Nat) : cut? text limit = some (cut text limit) :=
  (Option.some_get _).symm

end Logbook.Text
