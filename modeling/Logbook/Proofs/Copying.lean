import Logbook.Proofs.Polling

namespace Logbook.Logger

/-- A copy of the text into a buffer. The bytes that count are those of the longest beginning of the
text that fits, a text again, and the bytes behind them are left alone. -/
structure Copied.IsCopy (c : Copied) (buffer : List UInt8) (text : String) : Prop where
  content : ∃ out, Text.IsLongestWithin text buffer.length out ∧
    c.content = out.toByteArray.data.toList
  length_content : c.content.length = c.length
  valid : c.content.toByteArray.IsValidUTF8
  rest : c.buffer.drop c.length = buffer.drop c.length
  length_buffer : c.buffer.length = buffer.length

theorem isCopy_copyInto (buffer : List UInt8) (text : String) :
    (copyInto buffer text).IsCopy buffer text := by
  have hc := content_copyInto buffer text
  refine ⟨⟨_, Text.isLongestWithin_cut text buffer.length, hc⟩, ?_, ?_, ?_, ?_⟩
  · rw [hc]
    rfl
  · have hb : (Text.cut text buffer.length).toByteArray.data.toList.toByteArray =
        (Text.cut text buffer.length).toByteArray := by
      apply ByteArray.ext
      rw [List.data_toByteArray, Array.toArray_toList]
    rw [hc, hb]
    exact (Text.cut text buffer.length).isValidUTF8
  · exact List.drop_left
  · exact length_buffer_copyInto buffer text

variable {l : Logger}

theorem bytesWithin_of_le {e : Entry} {limit : Nat} (h : e.text.utf8ByteSize ≤ limit) :
    e.bytesWithin false limit = e.text.toByteArray.data.toList := by
  rw [Entry.bytesWithin, Entry.render_false, Text.cut_of_le h]

theorem render_eq (e : Entry) (context : Bool) :
    e.render context = (if context then e.origin.elim "" (· ++ "() ") else "") ++ e.text := by
  obtain ⟨severity, origin, text⟩ := e
  cases origin <;> cases context <;> simp [Entry.render]

/-- Without a usable buffer, and with nothing that waits, a pop into a buffer changes nothing and tells
nothing. Else it takes the newest message alone, tells so, and copies it, with context behind its
origin if this is known. A buffer of 400 bytes has room for all of its text. -/
theorem Reachable.popInto_isCopy (h : Reachable l) (buffer : Option (List UInt8)) (context : Bool) :
    match buffer, l.backlog.entries.getLast? with
    | none, _ => l.popInto buffer context = { value := .error .missing, logger := l }
    | some [], _ => l.popInto buffer context = { value := .error .empty, logger := l }
    | some (b :: bs), none => l.popInto buffer context = { value := .ok ⟨0, b :: bs⟩, logger := l }
    | some (b :: bs), some e =>
      ∃ copied,
        l.popInto buffer context =
            { value := .ok copied
              logger := l.withEntries l.backlog.entries.dropLast
              notices := [.drained .pop 1 (l.backlog.entries.length - 1)] } ∧
          copied.IsCopy (b :: bs)
            ((if context then e.origin.elim "" (· ++ "() ") else "") ++ e.text) ∧
          (context = false → 400 ≤ (b :: bs).length →
            copied.content = e.text.toByteArray.data.toList) := by
  match buffer with
  | none => rfl
  | some [] => rfl
  | some (b :: bs) =>
    have hb : b :: bs ≠ [] := List.cons_ne_nil b bs
    rcases List.eq_nil_or_concat' l.backlog.entries with hn | ⟨es, e, he⟩
    · rw [hn]
      exact popInto_of_nil hn hb context
    · have hs : (es ++ [e]).length - 1 = es.length := by
        rw [List.length_append, List.length_singleton, Nat.add_sub_cancel]
      rw [he, List.getLast?_concat, List.dropLast_concat, hs]
      refine ⟨_, popInto_of_append he hb context, ?_, ?_⟩
      · rw [← render_eq]
        exact isCopy_copyInto _ _
      · rintro rfl hl
        -- a prefix and a body have at most 200 bytes each
        have ht := h.wellFormed.text_le (he ▸ List.mem_concat_self)
        rw [content_copyInto]
        exact bytesWithin_of_le (ht.trans hl)

theorem copied_of_value {p : Performance (Except BufferFault Copied)} {c d : Copied}
    {ns : List Notice} (hp : p = { value := .ok c, logger := l, notices := ns })
    (hv : p.value.toOption = some d) : c = d := by
  rw [hp] at hv
  exact Option.some.inj hv

/-- The newer of two messages is copied, behind its origin with context. Into eight bytes of it the second
byte of the last character does not fit, so the eighth keeps its value. -/
theorem popInto_isCopy_of_two_entries :
    let l := (initial.configure { maxMessages := 2 }).logger
    let m := (l.log .warning none "gap").logger
    let n := (m.log .error (some "reader") "é").logger
    let short : List UInt8 := List.replicate 8 0xaa
    let wide : List UInt8 := List.replicate 20 0xaa
    let long : List UInt8 := List.replicate 400 0xaa
    let bytes (text : String) : List UInt8 := text.toByteArray.data.toList
    Reachable l ∧ Reachable m ∧ Reachable n ∧
      n.popInto none true = { value := .error .missing, logger := n } ∧
      n.popInto (some []) true = { value := .error .empty, logger := n } ∧
      l.popInto (some short) true = { value := .ok ⟨0, short⟩, logger := l } ∧
      (∃ copied,
        n.popInto (some wide) true =
            { value := .ok copied, logger := m, notices := [.drained .pop 1 1] } ∧
          copied.IsCopy wide "reader() Error: é" ∧
          copied = ⟨18, bytes "reader() Error: é" ++ [0xaa, 0xaa]⟩) ∧
      (∃ copied,
        m.popInto (some wide) true =
            { value := .ok copied, logger := l, notices := [.drained .pop 1 0] } ∧
          copied.IsCopy wide "Warning: gap" ∧
          copied = ⟨12, bytes "Warning: gap" ++ List.replicate 8 0xaa⟩) ∧
      (∃ copied,
        n.popInto (some short) false =
            { value := .ok copied, logger := m, notices := [.drained .pop 1 1] } ∧
          copied.IsCopy short "Error: é" ∧ copied = ⟨7, bytes "Error: " ++ [0xaa]⟩) ∧
      ∃ copied,
        n.popInto (some long) false =
            { value := .ok copied, logger := m, notices := [.drained .pop 1 1] } ∧
          400 ≤ long.length ∧ copied.content = bytes "Error: é" := by
  intro l m n short wide long bytes
  have hl : Reachable l := Reachable.initial.request (.call (.configure _))
  have hm : Reachable m := hl.request (.call (.log .warning none "gap"))
  have hn : Reachable n := hm.request (.call (.log .error (some "reader") "é"))
  refine ⟨hl, hm, hn, hn.popInto_isCopy none true, hn.popInto_isCopy (some []) true,
    hl.popInto_isCopy (some short) true, ?_, ?_, ?_, ?_⟩
  · obtain ⟨copied, hp, hc, -⟩ := hn.popInto_isCopy (some wide) true
    exact ⟨copied, hp, hc, copied_of_value hp (by decide +kernel)⟩
  · obtain ⟨copied, hp, hc, -⟩ := hm.popInto_isCopy (some wide) true
    exact ⟨copied, hp, hc, copied_of_value hp (by decide +kernel)⟩
  · obtain ⟨copied, hp, hc, -⟩ := hn.popInto_isCopy (some short) false
    exact ⟨copied, hp, hc, copied_of_value hp (by decide +kernel)⟩
  · obtain ⟨copied, hp, -, ht⟩ := hn.popInto_isCopy (some long) false
    have hk : 400 ≤ long.length := List.length_replicate.ge
    exact ⟨copied, hp, hk, ht rfl hk⟩

end Logbook.Logger
