import Logbook.Proofs.Reachable

namespace Logbook

def Entry.fitsPartly (context : Bool) (limit : Nat) (e : Entry) : Bool :=
  Text.beginsWithin (e.render context) limit

theorem Entry.fitsPartly_of_ne {e : Entry} (h : e.text ≠ "") (context : Bool) {limit : Nat}
    (hl : 4 ≤ limit) : e.fitsPartly context limit = true := by
  apply Text.beginsWithin_of_ne _ hl
  unfold render
  split
  · simp [h]
  · exact h

def Entry.bytesWithin (context : Bool) (limit : Nat) (e : Entry) : List UInt8 :=
  (Text.cut (e.render context) limit).toByteArray.data.toList

namespace Logger

def Copied.content (c : Copied) : List UInt8 := c.buffer.take c.length

section

variable (buffer : List UInt8) (text : String)

theorem length_copyInto :
    (copyInto buffer text).length = (Text.cut text buffer.length).utf8ByteSize := rfl

theorem length_buffer_copyInto : (copyInto buffer text).buffer.length = buffer.length := by
  have hc := Text.utf8ByteSize_cut_le text buffer.length
  rw [← length_copyInto] at hc
  have hb : (copyInto buffer text).buffer.length =
      (copyInto buffer text).length + (buffer.length - (copyInto buffer text).length) := by
    simp [copyInto]
  omega

theorem content_copyInto :
    (copyInto buffer text).content = (Text.cut text buffer.length).toByteArray.data.toList :=
  List.take_left

end

variable {l : Logger} {buffer : List UInt8} {es : List Entry} {e : Entry}

theorem popInto_of_nil (h : l.backlog.entries = []) (hb : buffer ≠ []) (context : Bool) :
    l.popInto (some buffer) context = { value := .ok ⟨0, buffer⟩, logger := l } := by
  obtain ⟨b, rest, rfl⟩ := List.exists_cons_of_ne_nil hb
  simp only [popInto, pop_of_nil l h]

theorem popInto_of_append (h : l.backlog.entries = es ++ [e]) (hb : buffer ≠ []) (context : Bool) :
    l.popInto (some buffer) context =
      { value := .ok (copyInto buffer (e.render context))
        logger := l.withEntries es
        notices := [.drained .pop 1 es.length] } := by
  obtain ⟨b, rest, rfl⟩ := List.exists_cons_of_ne_nil hb
  simp only [popInto, pop_of_append l h]

def something? (result : Except BufferFault Copied) : Option Copied :=
  result.toOption.filter fun c => 0 < c.length

theorem size_popInto_lt {context : Bool} {copied : Copied}
    (h : something? (l.popInto (some buffer) context).value = some copied) :
    (l.popInto (some buffer) context).logger.backlog.size < l.backlog.size := by
  by_cases hb : buffer = []
  · rw [hb] at h
    cases h
  · rcases List.eq_nil_or_concat' l.backlog.entries with hn | ⟨es, e, he⟩
    · rw [popInto_of_nil hn hb] at h
      cases h
    · rw [popInto_of_append he hb]
      simp [Backlog.size, he]

/-- Copies the newest message into the buffer and goes on with this buffer, as long as something is
copied. The answer has each copy that is not empty. -/
def poll (l : Logger) (buffer : List UInt8) (context : Bool) : Performance (List Copied) :=
  let popped := l.popInto (some buffer) context
  match _h : something? popped.value with
  | none => { value := [], logger := popped.logger, notices := popped.notices }
  | some copied =>
    let rest := poll popped.logger copied.buffer context
    { value := copied :: rest.value
      logger := rest.logger
      notices := popped.notices ++ rest.notices }
termination_by l.backlog.size
decreasing_by exact size_popInto_lt _h

theorem poll_of_none {context : Bool}
    (h : something? (l.popInto (some buffer) context).value = none) :
    l.poll buffer context =
      { value := []
        logger := (l.popInto (some buffer) context).logger
        notices := (l.popInto (some buffer) context).notices } := by
  rw [poll]
  split
  · rfl
  · next copied hs => exact nomatch h.symm.trans hs

theorem poll_of_some {context : Bool} {copied : Copied}
    (h : something? (l.popInto (some buffer) context).value = some copied) :
    let rest := (l.popInto (some buffer) context).logger.poll copied.buffer context
    l.poll buffer context =
      { value := copied :: rest.value
        logger := rest.logger
        notices := (l.popInto (some buffer) context).notices ++ rest.notices } := by
  intro rest
  rw [poll]
  split
  · next hs => exact nomatch h.symm.trans hs
  · next c hs =>
    cases Option.some.inj (h.symm.trans hs)
    rfl

theorem something?_copyInto (buffer : List UInt8) (context : Bool) (e : Entry) :
    something? (.ok (copyInto buffer (e.render context))) =
      if e.fitsPartly context buffer.length then some (copyInto buffer (e.render context))
      else none := by
  have hz := Text.utf8ByteSize_cut_eq_zero_iff (e.render context) buffer.length
  rw [← length_copyInto] at hz
  by_cases hf : e.fitsPartly context buffer.length = true
  · have hp : 0 < (copyInto buffer (e.render context)).length := by
      apply Nat.pos_of_ne_zero
      intro h0
      exact absurd (hz.mp h0) (by simpa [Entry.fitsPartly] using hf)
    simp [something?, Except.toOption, Option.filter, hf, hp]
  · have h0 : (copyInto buffer (e.render context)).length = 0 :=
      hz.mpr (Bool.eq_false_iff.mpr hf)
    simp [something?, Except.toOption, Option.filter, hf, h0]

theorem poll_eq (hb : buffer ≠ []) (context : Bool) (h : l.backlog.entries = es) :
    let fits := Entry.fitsPartly context buffer.length
    (l.poll buffer context).value.map Copied.content =
        (es.reverse.takeWhile fits).map (Entry.bytesWithin context buffer.length) ∧
      (l.poll buffer context).logger = l.withEntries (es.reverse.dropWhile fits).tail.reverse := by
  intro fits
  -- on what waits, from the newest on
  induction es using List.reverseRecOn generalizing l buffer with
  | nil =>
    have hp := popInto_of_nil h hb context
    rw [poll_of_none (by rw [hp]; rfl), hp]
    exact ⟨rfl, congrArg l.withEntries h⟩
  | append_singleton es e ih =>
    have hp := popInto_of_append h hb context
    have hs := something?_copyInto buffer context e
    rw [List.reverse_concat]
    by_cases hf : fits e = true
    · rw [if_pos hf] at hs
      have hl : (copyInto buffer (e.render context)).buffer.length = buffer.length :=
        length_buffer_copyInto _ _
      have hn : (copyInto buffer (e.render context)).buffer ≠ [] := by
        intro hz
        rw [hz] at hl
        exact hb (List.eq_nil_of_length_eq_zero hl.symm)
      obtain ⟨hv, hr⟩ := ih (l := l.withEntries es) hn rfl
      rw [poll_of_some (by rw [hp]; exact hs), hp]
      rw [hl] at hv hr
      rw [List.takeWhile_cons_of_pos hf, List.dropWhile_cons_of_pos hf, List.map_cons, List.map_cons,
        content_copyInto]
      exact ⟨congrArg _ hv, hr⟩
    · rw [if_neg hf] at hs
      rw [poll_of_none (by rw [hp]; exact hs), hp, List.takeWhile_cons_of_neg hf,
        List.dropWhile_cons_of_neg hf]
      refine ⟨rfl, ?_⟩
      rw [List.tail_cons, List.reverse_reverse]

/-- An empty copy tells an empty backlog, and polling hands over every message, the newest first, in as
many copies that are not empty. -/
structure PolledEmpty (l : Logger) (buffer : List UInt8) (context : Bool) : Prop where
  length_eq_zero_iff :
    (l.popInto (some buffer) context).value.map Copied.length = .ok 0 ↔ l.backlog.entries = []
  copies : (l.poll buffer context).value.length = l.backlog.size
  contents : (l.poll buffer context).value.map Copied.content =
    l.backlog.entries.reverse.map (Entry.bytesWithin context buffer.length)
  logger : (l.poll buffer context).logger = l.withEntries []

theorem length_popInto_eq_zero_iff (hb : buffer ≠ []) (context : Bool) :
    (l.popInto (some buffer) context).value.map Copied.length = .ok 0 ↔
      ∀ e, l.backlog.newest? = some e → e.fitsPartly context buffer.length = false := by
  rcases List.eq_nil_or_concat' l.backlog.entries with h | ⟨es, e, h⟩
  · rw [popInto_of_nil h hb, Backlog.newest?, h]
    exact ⟨fun _ _ he => (nomatch he), fun _ => rfl⟩
  · rw [popInto_of_append h hb, Backlog.newest?, h, List.getLast?_concat]
    have hz := Text.utf8ByteSize_cut_eq_zero_iff (e.render context) buffer.length
    rw [← length_copyInto] at hz
    simpa [Except.map, Entry.fitsPartly] using hz

theorem polledEmpty_iff (hb : buffer ≠ []) (context : Bool) :
    l.PolledEmpty buffer context ↔
      ∀ e ∈ l.backlog.entries, e.fitsPartly context buffer.length = true := by
  obtain ⟨hv, hl⟩ := poll_eq (l := l) hb context rfl
  refine ⟨fun h e he => ?_, fun h => ?_⟩
  · -- the copies would be too few
    have hn := congrArg List.length hv
    rw [List.length_map, List.length_map, h.copies, Backlog.size, ← List.length_reverse] at hn
    have ht := (List.takeWhile_prefix _).eq_of_length hn.symm
    exact List.mem_takeWhile_imp (ht.symm ▸ List.mem_reverse.mpr he)
  · have ht : l.backlog.entries.reverse.takeWhile (Entry.fitsPartly context buffer.length) =
        l.backlog.entries.reverse :=
      List.takeWhile_eq_self_iff.mpr fun e he => h e (List.mem_reverse.mp he)
    have hd : l.backlog.entries.reverse.dropWhile (Entry.fitsPartly context buffer.length) = [] :=
      List.dropWhile_eq_nil_iff.mpr fun e he => h e (List.mem_reverse.mp he)
    rw [ht] at hv
    rw [hd] at hl
    refine ⟨?_, ?_, hv, hl⟩
    · rw [length_popInto_eq_zero_iff hb]
      refine ⟨fun hf => ?_, fun hn e he => ?_⟩
      · rcases List.eq_nil_or_concat' l.backlog.entries with hn | ⟨es, e, he⟩
        · exact hn
        · have hm := hf e (by rw [Backlog.newest?, he, List.getLast?_concat])
          exact absurd (h e (he ▸ List.mem_concat_self)) (by simp [hm])
      · rw [Backlog.newest?, hn] at he
        cases he
    · have hn := congrArg List.length hv
      rwa [List.length_map, List.length_map, List.length_reverse] at hn

theorem WellFormed.prefixFor_ne (h : l.WellFormed) {s : Severity}
    (hs : s ≠ .info ∨ l.logPrefix ≠ "") : l.prefixFor s ≠ "" := by
  have hd : s ≠ .info → l.diagnosticPrefix.textFor s ≠ "" := by
    intro hi
    cases hp : l.diagnosticPrefix with
    | bySeverity => cases s <;> simp [DiagnosticPrefix.textFor, Severity.defaultPrefix] at hi ⊢
    | custom text =>
      rintro rfl
      exact absurd (h.custom_le "" hp).1 (by decide)
  cases s with
  | info => exact hs.resolve_left fun hi => hi rfl
  | warning | error => exact hd nofun

theorem WellFormed.text_ne (h : l.WellFormed)
    (hp : l.retention = .diagnosticsOnly ∨ l.logPrefix ≠ "") :
    ∀ e ∈ l.backlog.entries, e.text ≠ "" := by
  intro e he
  obtain ⟨body, -, ht⟩ := h.text_eq e he
  have hs : e.severity ≠ .info ∨ l.logPrefix ≠ "" := by
    apply hp.imp_left
    intro hr hi
    have hk := h.kept e he
    rw [hr, hi] at hk
    exact absurd hk (by decide)
  rw [ht]
  simp [h.prefixFor_ne hs]

/-- A copy into a buffer is empty exactly if nothing waits or nothing of the newest message fits.
Polling hands over the messages before the first of which nothing fits, and takes this one too. So it
empties the backlog exactly if something of each message fits, as it does whenever the buffer has four
bytes and no text is kept without a prefix. -/
theorem Reachable.polledEmpty_iff_fitsPartly (h : Reachable l) (hb : buffer ≠ []) (context : Bool) :
    let fits := Entry.fitsPartly context buffer.length
    let newest := l.backlog.entries.reverse
    let p := l.poll buffer context
    ((l.popInto (some buffer) context).value.map Copied.length = .ok 0 ↔
        ∀ e, newest.head? = some e → fits e = false) ∧
      p.value.map Copied.content =
        (newest.takeWhile fits).map (Entry.bytesWithin context buffer.length) ∧
      p.logger = l.withEntries (newest.dropWhile fits).tail.reverse ∧
      (l.PolledEmpty buffer context ↔ ∀ e ∈ newest, fits e = true) ∧
      (4 ≤ buffer.length → l.retention = .diagnosticsOnly ∨ l.logPrefix ≠ "" →
        l.PolledEmpty buffer context) := by
  intro fits newest p
  obtain ⟨hv, hl⟩ := poll_eq (l := l) hb context rfl
  have hp := polledEmpty_iff (l := l) hb context
  refine ⟨?_, hv, hl, ?_, fun hn hr => hp.mpr fun e he => ?_⟩
  · rw [List.head?_reverse]
    exact length_popInto_eq_zero_iff hb context
  · rw [hp]
    exact forall_congr' fun e => imp_congr_left List.mem_reverse.symm
  · exact Entry.fitsPartly_of_ne (h.wellFormed.text_ne hr e he) context hn

theorem polledEmpty_of_two_bytes :
    let given : Settings Sink := { diagnosticPrefix := some "é: ", maxMessages := 2 }
    let l := (initial.configure given).logger
    let m := ((l.log .error none "first").logger.log .warning (some "reader") "second").logger
    let buffer : List UInt8 := [0, 0, 0, 0]
    Reachable m ∧ buffer ≠ [] ∧ m.PolledEmpty buffer false ∧
      (m.poll buffer false).value.map Copied.content = [[0xc3, 0xa9, 58, 32], [0xc3, 0xa9, 58, 32]] ∧
      (m.poll buffer true).value.map Copied.content = [[114, 101, 97, 100], [0xc3, 0xa9, 58, 32]] ∧
      ¬m.PolledEmpty [0] false := by
  intro given l m buffer
  have hl : Reachable l := Reachable.initial.request (.call (.configure given))
  have hf : Reachable (l.log .error none "first").logger :=
    hl.request (.call (.log .error none "first"))
  have hm : Reachable m := hf.request (.call (.log .warning (some "reader") "second"))
  have hb : buffer ≠ [] := List.cons_ne_nil _ _
  have hplain := hm.polledEmpty_iff_fitsPartly hb false
  have hcontext := hm.polledEmpty_iff_fitsPartly hb true
  have hshort := hm.polledEmpty_iff_fitsPartly (List.cons_ne_nil (0 : UInt8) []) false
  refine ⟨hm, hb, hplain.2.2.2.2 (by decide) (.inl rfl), hplain.2.1.trans (by decide +kernel),
    hcontext.2.1.trans (by decide +kernel), fun hp => ?_⟩
  exact absurd (hshort.2.2.2.1.mp hp) (by decide +kernel)

/-- An empty text is copied as nothing, and so is one that begins with a character of two bytes if the
buffer has one. Polling stops there, before an older message or with the message lost. -/
theorem not_polledEmpty_of_empty_text :
    let keeping := (initial.configure { maxMessages := 2, retention := some .all }).logger
    let l := ((keeping.log .error none "kept").logger.log .info none "").logger
    let wide := (initial.configure { diagnosticPrefix := some "é: ", maxMessages := 1 }).logger
    let m := (wide.log .error none "lost").logger
    let buffer : List UInt8 := [0xaa]
    Reachable l ∧ l.backlog.size = 2 ∧
      (l.popInto (some buffer) false).value.map Copied.length = .ok 0 ∧
      (l.poll buffer false).value = [] ∧ (l.poll buffer false).logger.backlog.size = 1 ∧
      ¬l.PolledEmpty buffer false ∧
      Reachable m ∧ m.backlog.size = 1 ∧
      (m.popInto (some buffer) false).value.map Copied.length = .ok 0 ∧
      (m.poll buffer false).value = [] ∧ ¬m.PolledEmpty buffer false := by
  intro keeping l wide m buffer
  have hk : Reachable keeping := Reachable.initial.request (.call (.configure _))
  have he : Reachable (keeping.log .error none "kept").logger :=
    hk.request (.call (.log .error none "kept"))
  have hl : Reachable l := he.request (.call (.log .info none ""))
  have hw : Reachable wide := Reachable.initial.request (.call (.configure _))
  have hm : Reachable m := hw.request (.call (.log .error none "lost"))
  have hb : buffer ≠ [] := List.cons_ne_nil _ _
  have hlz := (length_popInto_eq_zero_iff (l := l) hb false).mpr (by decide +kernel)
  have hmz := (length_popInto_eq_zero_iff (l := m) hb false).mpr (by decide +kernel)
  obtain ⟨hlv, hlp⟩ := poll_eq (l := l) hb false rfl
  obtain ⟨hmv, -⟩ := poll_eq (l := m) hb false rfl
  refine ⟨hl, rfl, hlz, List.map_eq_nil_iff.mp (hlv.trans (by decide +kernel)), ?_, fun h => ?_,
    hm, rfl, hmz, List.map_eq_nil_iff.mp (hmv.trans (by decide +kernel)), fun h => ?_⟩
  · rw [hlp]
    decide +kernel
  · exact absurd (h.length_eq_zero_iff.mp hlz) (by decide)
  · exact absurd (h.length_eq_zero_iff.mp hmz) (by decide)

end Logger

end Logbook
