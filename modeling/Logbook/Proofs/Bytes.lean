import Logbook.Proofs.Cut

namespace Logbook.Text

def continues (b : UInt8) : Bool := 0x80 ≤ b && b < 0xc0

theorem continues_ofNat_iff (n : Nat) :
    continues (UInt8.ofNat n) = true ↔ 128 ≤ n % 256 ∧ n % 256 < 192 := by
  simp [continues, UInt8.le_iff_toNat_le, UInt8.lt_iff_toNat_lt]

/-- The bytes of a character behind its first carry six bits each. -/
theorem exists_utf8EncodeChar (c : Char) :
    ∃ (n : Nat) (ms : List Nat), (n < 128 ∨ 192 ≤ n ∧ n < 256) ∧
      String.utf8EncodeChar c = UInt8.ofNat n :: ms.map fun m => UInt8.ofNat (m % 64 + 128) := by
  simp only [String.utf8EncodeChar]
  split
  · exact ⟨c.val.toNat, [], by omega, rfl⟩
  split
  · exact ⟨_, [c.val.toNat], by omega, rfl⟩
  split
  · exact ⟨_, [c.val.toNat / 64, c.val.toNat], by omega, rfl⟩
  · exact ⟨_, [c.val.toNat / 4096, c.val.toNat / 64, c.val.toNat], by omega, rfl⟩

theorem continues_getElem_utf8EncodeChar {c : Char} {i : Nat}
    (h : i < (String.utf8EncodeChar c).length) :
    continues (String.utf8EncodeChar c)[i] = false ↔ i = 0 := by
  obtain ⟨n, ms, hn, he⟩ := exists_utf8EncodeChar c
  simp only [he, Bool.eq_false_iff, ne_eq]
  cases i with
  | zero =>
    rw [List.getElem_cons_zero, continues_ofNat_iff]
    omega
  | succ i =>
    rw [List.getElem_cons_succ, List.getElem_map, continues_ofNat_iff]
    omega

section

variable {text : String}

theorem data_toByteArray_eq_flatMap (text : String) :
    text.toByteArray.data.toList = text.toList.flatMap String.utf8EncodeChar := by
  rw [← String.utf8Encode_toList, List.utf8Encode, List.data_toByteArray, Array.toArray_toList]

theorem isUTF8FirstByte_iff {b : UInt8} (h : b ∈ text.toByteArray.data.toList) :
    b.IsUTF8FirstByte ↔ continues b = false := by
  rw [data_toByteArray_eq_flatMap] at h
  obtain ⟨c, -, hb⟩ := List.mem_flatMap.mp h
  obtain ⟨i, hi, rfl⟩ := List.mem_iff_getElem.mp hb
  rw [UInt8.isUTF8FirstByte_getElem_utf8EncodeChar, continues_getElem_utf8EncodeChar]

def continuesAt (text : String) (i : Nat) : Bool :=
  text.toByteArray.data.toList[i]?.any continues

/-- The test for a boundary reads the byte there. Behind the last byte only the end of the text is one. -/
theorem isBoundary_iff (text : String) (i : Nat) :
    isBoundary text i = true ↔ i ≤ text.utf8ByteSize ∧ continuesAt text i = false := by
  rw [isBoundary, String.Pos.Raw.isValid_eq_true_iff, String.Pos.Raw.isValid_iff_isUTF8FirstByte,
    String.Pos.Raw.ext_iff, String.byteIdx_rawEndPos]
  -- behind the last byte there is none to read, and only the end of the text is left
  by_cases hi : i < text.utf8ByteSize
  · have hl : i < text.toByteArray.data.toList.length := hi
    have hb := isUTF8FirstByte_iff (List.getElem_mem hl)
    have hc : continuesAt text i = continues text.toByteArray.data.toList[i] := by
      rw [continuesAt, List.getElem?_eq_getElem hl, Option.any_some]
    rw [hc, ← hb]
    constructor
    · rintro (he | ⟨_, hf⟩)
      · exact absurd he (Nat.ne_of_lt hi)
      · exact ⟨Nat.le_of_lt hi, hf⟩
    · rintro ⟨-, hf⟩
      exact .inr ⟨hi, hf⟩
  · have hl : text.toByteArray.data.toList.length ≤ i := Nat.not_lt.mp hi
    have hc : continuesAt text i = false := by
      rw [continuesAt, List.getElem?_eq_none hl, Option.any_none]
    constructor
    · rintro (he | ⟨hf, _⟩)
      · exact ⟨Nat.le_of_eq he, hc⟩
      · exact absurd hf hi
    · rintro ⟨hle, -⟩
      exact .inl (Nat.le_antisymm hle (Nat.not_lt.mp hi))

/-- Where a search backwards from byte `i` stops: at a byte `n` that does not go on with a character, once
it has passed over bytes that do. -/
structure StopsAt (text : String) (i n : Nat) : Prop where
  le : n ≤ i
  begins : continuesAt text n = false
  passed : ∀ j, n < j → j ≤ i → continuesAt text j = true

theorem stopsAt_of_boundaryAtOrBefore? {i n : Nat} (hi : i ≤ text.utf8ByteSize)
    (h : boundaryAtOrBefore? text i = some n) : StopsAt text i n := by
  obtain ⟨m, hm, he, hb⟩ := exists_boundaryAtOrBefore? text i
  cases he.symm.trans h
  refine ⟨hm, ((isBoundary_iff text n).mp hb).2, fun j hn hj => ?_⟩
  cases hc : continuesAt text j with
  | true => rfl
  | false =>
    -- the search would have met a boundary at `j` before
    have hj' := (isBoundary_iff text j).mpr ⟨Nat.le_trans hj hi, hc⟩
    have hle := le_of_boundaryAtOrBefore? hj' hj h
    omega

end

/-- The search for a boundary never leaves the text, and up to where it stops there is a text: this is the
cut. No other beginning in whole characters is the longest that fits, and the characters that are taken one
by one as long as the next one fits are the same. A text that fits is not cut, of another one no more than
three bytes below the limit are left out. A cut of a cut is the cut at the smaller limit, and it begins the
cut at the larger one. -/
theorem cut_longest_and_nested (text : String) :
    (∀ m n, cut (cut text m) n = cut text (min m n)) ∧
      (∀ m n, m ≤ n → (cut text m).toList <+: (cut text n).toList) ∧
      ∀ limit,
        let out := cut text limit
        cut? text limit = some out ∧
          (∀ other, IsLongestWithin text limit other ↔ other = out) ∧
          out.toList = fitting limit text.toList ∧
          (out = text ↔ text.utf8ByteSize ≤ limit) ∧
          (limit < text.utf8ByteSize →
            boundaryAtOrBefore? text limit = some out.utf8ByteSize ∧
              StopsAt text limit out.utf8ByteSize ∧
              upTo? text out.utf8ByteSize = some out ∧
              limit < out.utf8ByteSize + 4) := by
  refine ⟨cut_cut text, fun m n => cut_prefix_cut text, fun limit => ?_⟩
  refine ⟨cut?_eq_some_cut text limit, fun other => isLongestWithin_iff, toList_cut text limit,
    cut_eq_self_iff, fun h => ?_⟩
  obtain ⟨hb, hu⟩ := search_of_lt h
  exact ⟨hb, stopsAt_of_boundaryAtOrBefore? (Nat.le_of_lt h) hb, hu, lt_utf8ByteSize_cut_add h⟩

theorem cut_longest_and_nested_of_four :
    let text := "aé€😀"
    5 ≤ 9 ∧ (cut text 5).toList <+: (cut text 9).toList ∧ cut (cut text 9) 5 = "aé" ∧
      9 < text.utf8ByteSize ∧ boundaryAtOrBefore? text 9 = some 6 ∧ StopsAt text 9 6 ∧
      upTo? text 6 = some "aé€" ∧ 9 < 6 + 4 := by
  intro text
  have h9 : 9 < text.utf8ByteSize := by decide +kernel
  have hc : cut text 9 = "aé€" := by decide +kernel
  have h5 : cut text 5 = "aé" := by decide +kernel
  have hs : "aé€".utf8ByteSize = 6 := by decide +kernel
  obtain ⟨hcut, hprefix, hall⟩ := cut_longest_and_nested text
  obtain ⟨hb, hst, hu, hl⟩ := (hall 9).2.2.2.2 h9
  rw [hc, hs] at hb hst hu hl
  exact ⟨by decide, hprefix 5 9 (by decide), (hcut 9 5).trans h5, h9, hb, hst, hu, hl⟩

end Logbook.Text
