import Logbook.Text.Cut

namespace Logbook.Text

theorem utf8ByteSize_of_upTo? {text out : String} {n : Nat} (h : upTo? text n = some out) :
    out.utf8ByteSize = n := by
  unfold upTo? at h
  split at h
  · cases h
    rw [String.Slice.utf8ByteSize_copy, String.utf8ByteSize_sliceTo, String.offset_pos]
  · cases h

theorem cut_of_le {text : String} {limit : Nat} (h : text.utf8ByteSize ≤ limit) :
    cut text limit = text := by
  have hc := cut?_eq_some_cut text limit
  rw [cut?, if_pos h] at hc
  exact (Option.some.inj hc).symm

theorem search_of_lt {text : String} {limit : Nat} (h : limit < text.utf8ByteSize) :
    boundaryAtOrBefore? text limit = some (cut text limit).utf8ByteSize ∧
      upTo? text (cut text limit).utf8ByteSize = some (cut text limit) := by
  have hc := cut?_eq_some_cut text limit
  rw [cut?, if_neg (Nat.not_le.mpr h)] at hc
  obtain ⟨n, hb, hn⟩ := Option.bind_eq_some_iff.mp hc
  rw [utf8ByteSize_of_upTo? hn]
  exact ⟨hb, hn⟩

theorem utf8ByteSize_cut_le (text : String) (limit : Nat) :
    (cut text limit).utf8ByteSize ≤ limit := by
  by_cases hle : text.utf8ByteSize ≤ limit
  · rwa [cut_of_le hle]
  · obtain ⟨n, hn, hb, -⟩ := exists_boundaryAtOrBefore? text limit
    rw [(search_of_lt (Nat.lt_of_not_le hle)).1] at hb
    rw [Option.some.inj hb]
    exact hn

theorem exists_append_of_upTo? {text out : String} {n : Nat} (h : upTo? text n = some out) :
    ∃ rest, text = out ++ rest := by
  unfold upTo? at h
  split at h
  · cases h
    exact ⟨_, String.sliceTo_append_sliceFrom.symm⟩
  · cases h

theorem exists_append_cut (text : String) (limit : Nat) :
    ∃ rest, text = cut text limit ++ rest := by
  by_cases hle : text.utf8ByteSize ≤ limit
  · refine ⟨"", ?_⟩
    rw [cut_of_le hle, String.append_empty]
  · exact exists_append_of_upTo? (search_of_lt (Nat.lt_of_not_le hle)).2

/-- The search steps down from the limit, so it meets the last boundary first. -/
theorem le_of_boundaryAtOrBefore? {text : String} {i m n : Nat} (hm : isBoundary text m = true)
    (hi : m ≤ i) (hn : boundaryAtOrBefore? text i = some n) : m ≤ n := by
  induction i with
  | zero => omega
  | succ i ih =>
    by_cases hb : isBoundary text (i + 1) = true
    · rw [boundaryAtOrBefore?, if_pos hb] at hn
      have he := Option.some.inj hn
      omega
    · have hne : m ≠ i + 1 := by
        rintro rfl
        exact hb hm
      rw [boundaryAtOrBefore?, if_neg hb] at hn
      exact ih (by omega) hn

theorem isBoundary_append (start rest : String) :
    isBoundary (start ++ rest) start.utf8ByteSize = true := by
  apply String.Pos.Raw.isValid_eq_true_iff.mpr
  exact String.Pos.Raw.isValid_rawEndPos.append_right rest

theorem utf8ByteSize_le_cut {start : String} {limit : Nat} (h : start.utf8ByteSize ≤ limit)
    (rest : String) : start.utf8ByteSize ≤ (cut (start ++ rest) limit).utf8ByteSize := by
  by_cases hle : (start ++ rest).utf8ByteSize ≤ limit
  · rw [cut_of_le hle, String.utf8ByteSize_append]
    omega
  · have hb := (search_of_lt (Nat.lt_of_not_le hle)).1
    exact le_of_boundaryAtOrBefore? (isBoundary_append start rest) h hb

/-- `out` is the longest beginning of the text in whole characters that fits in `limit` bytes: every
other one that fits is a beginning of it. -/
structure IsLongestWithin (text : String) (limit : Nat) (out : String) : Prop where
  begins : out.toList <+: text.toList
  size_le : out.utf8ByteSize ≤ limit
  longest : ∀ start : String, start.toList <+: text.toList → start.utf8ByteSize ≤ limit →
    start.toList <+: out.toList

theorem eq_append_of_prefix {start text : String} (h : start.toList <+: text.toList) :
    ∃ rest, text = start ++ rest := by
  obtain ⟨cs, hcs⟩ := h
  refine ⟨String.ofList cs, String.toList_inj.mp ?_⟩
  rw [String.toList_append, String.toList_ofList, hcs]

theorem prefix_of_utf8ByteSize_le {start out text : String} (hs : start.toList <+: text.toList)
    (ho : out.toList <+: text.toList) (h : start.utf8ByteSize ≤ out.utf8ByteSize) :
    start.toList <+: out.toList := by
  obtain hp | hp := List.prefix_or_prefix_of_prefix hs ho
  · exact hp
  · obtain ⟨rest, rfl⟩ := eq_append_of_prefix hp
    have hz : rest = "" := by
      apply String.utf8ByteSize_eq_zero_iff.mp
      rw [String.utf8ByteSize_append] at h
      omega
    refine ⟨[], ?_⟩
    rw [hz, String.append_empty, List.append_nil]

theorem isLongestWithin_cut (text : String) (limit : Nat) :
    IsLongestWithin text limit (cut text limit) := by
  have hb : (cut text limit).toList <+: text.toList := by
    obtain ⟨rest, hr⟩ := exists_append_cut text limit
    refine ⟨rest.toList, ?_⟩
    rw [← String.toList_append, ← hr]
  refine ⟨hb, utf8ByteSize_cut_le text limit, fun start hs hl => ?_⟩
  apply prefix_of_utf8ByteSize_le hs hb
  obtain ⟨rest, rfl⟩ := eq_append_of_prefix hs
  exact utf8ByteSize_le_cut hl rest

def fitting : Nat → List Char → List Char
  | _, [] => []
  | limit, c :: cs => if c.utf8Size ≤ limit then c :: fitting (limit - c.utf8Size) cs else []

section

variable (limit : Nat) (cs : List Char)

theorem utf8ByteSize_ofList_cons (c : Char) :
    (String.ofList (c :: cs)).utf8ByteSize = c.utf8Size + (String.ofList cs).utf8ByteSize := by
  rw [String.ofList_cons, String.utf8ByteSize_append, String.utf8ByteSize_singleton]

theorem fitting_prefix : fitting limit cs <+: cs := by
  induction cs generalizing limit with
  | nil => exact List.prefix_rfl
  | cons c cs ih =>
    rw [fitting]
    split
    · exact (List.prefix_cons_inj c).mpr (ih _)
    · exact List.nil_prefix

theorem utf8ByteSize_fitting_le : (String.ofList (fitting limit cs)).utf8ByteSize ≤ limit := by
  induction cs generalizing limit with
  | nil => exact Nat.zero_le limit
  | cons c cs ih =>
    rw [fitting]
    split
    · have hr := ih (limit - c.utf8Size)
      rw [utf8ByteSize_ofList_cons]
      omega
    · exact Nat.zero_le limit

theorem lt_utf8ByteSize_fitting_add (h : limit < (String.ofList cs).utf8ByteSize) :
    limit < (String.ofList (fitting limit cs)).utf8ByteSize + 4 := by
  induction cs generalizing limit with
  | nil => exact absurd h (Nat.not_lt_zero limit)
  | cons c cs ih =>
    rw [utf8ByteSize_ofList_cons] at h
    rw [fitting]
    split
    · have hr := ih (limit - c.utf8Size) (by omega)
      rw [utf8ByteSize_ofList_cons]
      omega
    · have hc := c.utf8Size_le_four
      omega

variable {limit cs}

theorem prefix_fitting {start : List Char} (h : start <+: cs)
    (hs : (String.ofList start).utf8ByteSize ≤ limit) : start <+: fitting limit cs := by
  induction cs generalizing limit start with
  | nil => exact h
  | cons c cs ih =>
    obtain rfl | ⟨rest, rfl, hr⟩ := List.prefix_cons_iff.mp h
    · exact List.nil_prefix
    · rw [utf8ByteSize_ofList_cons] at hs
      rw [fitting, if_pos (by omega)]
      exact (List.prefix_cons_inj c).mpr (ih hr (by omega))

end

theorem isLongestWithin_fitting (text : String) (limit : Nat) :
    IsLongestWithin text limit (String.ofList (fitting limit text.toList)) where
  begins := by
    rw [String.toList_ofList]
    exact fitting_prefix limit text.toList
  size_le := utf8ByteSize_fitting_le limit text.toList
  longest start hs hl := by
    rw [String.toList_ofList]
    exact prefix_fitting hs (by rwa [String.ofList_toList])

section

variable {text out : String} {limit : Nat}

theorem isLongestWithin_iff : IsLongestWithin text limit out ↔ out = cut text limit := by
  have hc := isLongestWithin_cut text limit
  constructor
  · intro h
    have ho := hc.longest out h.begins h.size_le
    have hi := h.longest (cut text limit) hc.begins hc.size_le
    exact String.toList_inj.mp (ho.eq_of_length_le hi.length_le)
  · rintro rfl
    exact hc

theorem toList_cut (text : String) (limit : Nat) :
    (cut text limit).toList = fitting limit text.toList := by
  rw [← isLongestWithin_iff.mp (isLongestWithin_fitting text limit), String.toList_ofList]

theorem cut_eq_self_iff : cut text limit = text ↔ text.utf8ByteSize ≤ limit := by
  constructor
  · intro h
    rw [← h]
    exact utf8ByteSize_cut_le text limit
  · exact cut_of_le

theorem lt_utf8ByteSize_cut_add (h : limit < text.utf8ByteSize) :
    limit < (cut text limit).utf8ByteSize + 4 := by
  rw [← isLongestWithin_iff.mp (isLongestWithin_fitting text limit)]
  exact lt_utf8ByteSize_fitting_add limit text.toList (by rwa [String.ofList_toList])

theorem utf8ByteSize_cut_le_self (text : String) (limit : Nat) :
    (cut text limit).utf8ByteSize ≤ text.utf8ByteSize := by
  obtain ⟨rest, hr⟩ := exists_append_cut text limit
  have hs := congrArg String.utf8ByteSize hr
  rw [String.utf8ByteSize_append] at hs
  omega

theorem cut_cut (text : String) (m n : Nat) : cut (cut text m) n = cut text (min m n) := by
  have hm := isLongestWithin_cut text m
  have hn := isLongestWithin_cut (cut text m) n
  apply isLongestWithin_iff.mp
  refine ⟨hn.begins.trans hm.begins, ?_, fun start hs hl => ?_⟩
  · have hle := Nat.le_trans (utf8ByteSize_cut_le_self (cut text m) n) hm.size_le
    exact Nat.le_min.mpr ⟨hle, hn.size_le⟩
  · obtain ⟨hlm, hln⟩ := Nat.le_min.mp hl
    exact hn.longest start (hm.longest start hs hlm) hln

theorem cut_prefix_cut (text : String) {m n : Nat} (h : m ≤ n) :
    (cut text m).toList <+: (cut text n).toList := by
  have hm := isLongestWithin_cut text m
  exact (isLongestWithin_cut text n).longest _ hm.begins (Nat.le_trans hm.size_le h)

end

def beginsWithin (text : String) (limit : Nat) : Bool :=
  text.toList.head?.any fun c => c.utf8Size ≤ limit

theorem beginsWithin_of_ne {text : String} (h : text ≠ "") {limit : Nat} (hl : 4 ≤ limit) :
    beginsWithin text limit = true := by
  cases ht : text.toList with
  | nil => exact absurd (String.toList_eq_nil_iff.mp ht) h
  | cons c cs =>
    have hc := c.utf8Size_le_four
    rw [beginsWithin, ht]
    exact decide_eq_true (by omega)

theorem utf8ByteSize_cut_eq_zero_iff (text : String) (limit : Nat) :
    (cut text limit).utf8ByteSize = 0 ↔ beginsWithin text limit = false := by
  rw [String.utf8ByteSize_eq_zero_iff, ← String.toList_eq_nil_iff, toList_cut, beginsWithin]
  cases text.toList with
  | nil => exact ⟨fun _ => rfl, fun _ => rfl⟩
  | cons c cs =>
    by_cases hc : c.utf8Size ≤ limit
    · simp [fitting, hc]
    · simp [fitting, hc]

end Logbook.Text
