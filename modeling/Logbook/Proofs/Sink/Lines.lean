import Logbook.Proofs.Bytes
import Logbook.Proofs.Retrieval
import Logbook.Proofs.Sink.Room
import Mathlib.Algebra.GroupWithZero.Nat

namespace Logbook

open Text

namespace Writer

theorem bytes_append (text more : String) : bytes (text ++ more) = bytes text ++ bytes more := by
  simp [bytes, String.toByteArray_append]

theorem bytes_eq_flatMap (text : String) :
    bytes text = text.toList.flatMap String.utf8EncodeChar :=
  data_toByteArray_eq_flatMap text

theorem count_lineFeed_utf8EncodeChar (c : Char) :
    (String.utf8EncodeChar c).count lineFeed = if c = '\n' then 1 else 0 := by
  have hc : c = '\n' ↔ c.val.toNat = 10 := by
    rw [← Char.toNat_inj]
    rfl
  have hb : ∀ n : Nat, UInt8.ofNat n = lineFeed ↔ n % 256 = 10 := by
    intro n
    rw [← UInt8.toNat_inj, UInt8.toNat_ofNat']
    rfl
  simp only [String.utf8EncodeChar, hc]
  split_ifs
  all_goals simp only [List.count_cons, List.count_nil, beq_iff_eq, hb]
  all_goals grind

theorem count_lineFeed_bytes (text : String) :
    (bytes text).count lineFeed = text.toList.count '\n' := by
  rw [bytes_eq_flatMap]
  induction text.toList with
  | nil => rfl
  | cons c cs ih =>
    rw [List.flatMap_cons, List.count_append, ih, count_lineFeed_utf8EncodeChar, List.count_cons]
    simp [Nat.add_comm]

theorem lineFeed_suffix_bytes {text : String} (h : ['\n'] <:+ text.toList) :
    [lineFeed] <:+ bytes text := by
  obtain ⟨cs, hcs⟩ := h
  rw [bytes_eq_flatMap, ← hcs, List.flatMap_append]
  exact List.suffix_append _ _

end Writer

open Writer

namespace LineMode

def output (mode : LineMode) (texts : List String) : List UInt8 :=
  (acceptAll ⟨mode, none, []⟩ texts).written

theorem output_eq_stream (mode : LineMode) (texts : List String) :
    mode.output texts = mode.stream texts := by
  rw [output, acceptAll_eq, taking_unbounded]
  rfl

theorem contribution_verbatim : verbatim.contribution = bytes := by
  funext text
  simp [contribution]

section

variable {text : String}

theorem contribution_of_suffix (h : ['\n'] <:+ text.toList) :
    terminated.contribution text = bytes text := by
  simp [contribution, h]

theorem contribution_of_not_suffix (h : ¬ ['\n'] <:+ text.toList) :
    terminated.contribution text = bytes text ++ [lineFeed] := by
  simp [contribution, h]

variable (text)

theorem lineFeed_suffix_contribution : [lineFeed] <:+ terminated.contribution text := by
  by_cases h : ['\n'] <:+ text.toList
  · rw [contribution_of_suffix h]
    exact lineFeed_suffix_bytes h
  · rw [contribution_of_not_suffix h]
    exact List.suffix_append _ _

theorem count_contribution :
    (terminated.contribution text).count lineFeed =
      text.toList.count '\n' + if ['\n'] <:+ text.toList then 0 else 1 := by
  by_cases h : ['\n'] <:+ text.toList
  · rw [contribution_of_suffix h, count_lineFeed_bytes, if_pos h, Nat.add_zero]
  · rw [contribution_of_not_suffix h, List.count_append, count_lineFeed_bytes, if_neg h,
      List.count_singleton_self]

theorem contribution_of_line (h : '\n' ∉ text.toList.dropLast) :
    '\n' ∉ (withoutFinalNewlines text).toList ∧
      terminated.contribution text = bytes (withoutFinalNewlines text) ++ [lineFeed] := by
  obtain ⟨⟨n, hr⟩, ht⟩ := isTrimmed_withoutFinalNewlines text
  cases n with
  | zero =>
    -- no line feed at the end, so the mode adds one
    rw [List.replicate_zero, List.append_nil, String.toList_inj] at hr
    have hs : ¬ ['\n'] <:+ text.toList := by
      rw [← endsLine_eq_true_iff, hr, ht]
      exact Bool.false_ne_true
    rw [← hr]
    refine ⟨fun hm => ?_, contribution_of_not_suffix hs⟩
    rcases List.eq_nil_or_concat' text.toList with hc | ⟨cs, c, hc⟩
    · simp [hc] at hm
    · rw [hc, List.dropLast_concat] at h
      rw [hc, List.mem_append, List.mem_singleton, or_iff_right h] at hm
      exact hs ⟨cs, by rw [hc, hm]⟩
  | succ n =>
    -- the text ends in its only line feed
    rw [List.replicate_succ', ← List.append_assoc] at hr
    rw [hr, List.dropLast_concat, List.mem_append, not_or] at h
    have hn : n = 0 := by simpa using h.2
    have hb : text = withoutFinalNewlines text ++ "\n" := by
      apply String.toList_inj.mp
      rw [hr, hn, List.replicate_zero, List.append_nil, String.toList_append]
      rfl
    refine ⟨h.1, ?_⟩
    rw [contribution_of_suffix ⟨_, hr.symm⟩, ← bytes_lineFeed, ← bytes_append, ← hb]

end

section

variable (texts : List String)

theorem lineFeed_suffix_stream :
    terminated.stream texts = [] ∨ [lineFeed] <:+ terminated.stream texts := by
  rcases List.eq_nil_or_concat' texts with rfl | ⟨earlier, text, rfl⟩
  · exact .inl rfl
  · refine .inr ?_
    rw [stream_append, stream_cons, stream_nil, List.append_nil]
    exact (lineFeed_suffix_contribution text).trans (List.suffix_append _ _)

theorem count_stream :
    (terminated.stream texts).count lineFeed =
      (texts.map fun text => text.toList.count '\n').sum +
        texts.countP fun text => ¬ ['\n'] <:+ text.toList := by
  induction texts with
  | nil => rfl
  | cons text rest ih =>
    rw [stream_cons, List.count_append, count_contribution, ih, List.map_cons, List.sum_cons,
      List.countP_cons]
    by_cases h : ['\n'] <:+ text.toList
    · simp [h]
      omega
    · simp [h]
      omega

theorem splitOn_stream (h : ∀ text ∈ texts, '\n' ∉ text.toList.dropLast) :
    (terminated.stream texts).splitOn lineFeed =
      texts.map (fun text => bytes (withoutFinalNewlines text)) ++ [[]] := by
  induction texts with
  | nil => rfl
  | cons text rest ih =>
    obtain ⟨ht, hr⟩ := List.forall_mem_cons.mp h
    obtain ⟨hn, hc⟩ := contribution_of_line text ht
    have hl : lineFeed ∉ bytes (withoutFinalNewlines text) := by
      rwa [← List.count_eq_zero, count_lineFeed_bytes, List.count_eq_zero]
    rw [stream_cons, hc, List.append_assoc, List.singleton_append,
      List.splitOn_append_cons_self_of_not_mem hl, ih hr]
    rfl

/-- A stream that terminates its lines is empty or ends a line. Texts without a line feed, except perhaps at
their end, are its lines in their order, and nothing is behind the last one. Any other text begins a line
too, and gets no second line feed. Without termination the stream is the texts in a row. -/
theorem output_lines :
    (terminated.output texts = [] ∨ [lineFeed] <:+ terminated.output texts) ∧
      ((∀ text ∈ texts, '\n' ∉ text.toList.dropLast) →
        (terminated.output texts).splitOn lineFeed =
          texts.map (fun text => bytes (withoutFinalNewlines text)) ++ [[]]) ∧
      (terminated.output texts).count lineFeed =
        (texts.map fun text => text.toList.count '\n').sum +
          texts.countP (fun text => ¬ ['\n'] <:+ text.toList) ∧
      (∀ earlier text later, texts = earlier ++ text :: later →
        (terminated.output earlier = [] ∨ [lineFeed] <:+ terminated.output earlier) ∧
          terminated.output texts =
            terminated.output earlier ++
              (bytes text ++ if ['\n'] <:+ text.toList then [] else [lineFeed]) ++
                terminated.output later) ∧
      verbatim.output texts = texts.flatMap bytes := by
  simp only [output_eq_stream]
  refine ⟨lineFeed_suffix_stream texts, splitOn_stream texts, count_stream texts, ?_, ?_⟩
  · rintro earlier text later rfl
    refine ⟨lineFeed_suffix_stream earlier, ?_⟩
    rw [stream_append, stream_cons, List.append_assoc]
    by_cases h : ['\n'] <:+ text.toList
    · rw [contribution_of_suffix h, if_pos h, List.append_nil]
    · rw [contribution_of_not_suffix h, if_neg h]
  · rw [stream, contribution_verbatim]

theorem output_lines_of_four :
    let out := terminated.output ["", "\n", "CRC é", "gap\n"]
    (∀ text ∈ ["", "\n", "CRC é", "gap\n"], '\n' ∉ text.toList.dropLast) ∧
      out.splitOn lineFeed = [[], [], bytes "CRC é", bytes "gap", []] ∧
      ["", "\n", "CRC é", "gap\n"] = ["", "\n"] ++ "CRC é" :: ["gap\n"] ∧
      out = terminated.output ["", "\n"] ++ (bytes "CRC é" ++ [lineFeed]) ++
        terminated.output ["gap\n"] := by
  have h : ∀ text ∈ ["", "\n", "CRC é", "gap\n"], '\n' ∉ text.toList.dropLast := by decide
  have ho := output_lines ["", "\n", "CRC é", "gap\n"]
  exact ⟨h, ho.2.1 h, rfl, (ho.2.2.2.1 ["", "\n"] "CRC é" ["gap\n"] rfl).2⟩

end

end LineMode

end Logbook
