import Logbook.Proofs.Copying
import Mathlib.Data.List.Forall2

namespace Logbook

namespace Text

/-- `out` is the text without the line feeds at its end, all of them and nothing else. -/
structure IsTrimmed (text out : String) : Prop where
  removed : ∃ n, text.toList = out.toList ++ List.replicate n '\n'
  trimmed : endsLine out = false

theorem isTrimmed_withoutFinalNewlines (text : String) :
    IsTrimmed text (withoutFinalNewlines text) := by
  let p : Char → Bool := (· == '\n')
  have ho : (withoutFinalNewlines text).toList = text.toList.rdropWhile p := String.toList_ofList
  refine ⟨⟨(text.toList.rtakeWhile p).length, ?_⟩, ?_⟩
  · have hr : text.toList.rtakeWhile p = List.replicate (text.toList.rtakeWhile p).length '\n' := by
      apply List.eq_replicate_of_mem
      intro c hc
      have hb : p c = true := List.mem_rtakeWhile_imp hc
      exact eq_of_beq hb
    rw [ho, ← hr, List.rdropWhile_append_rtakeWhile]
  · rw [endsLine, ho]
    by_cases hn : text.toList.rdropWhile p = []
    · rw [hn]
      rfl
    · have hl := List.rdropWhile_last_not p text.toList hn
      rw [List.getLast?_eq_some_getLast hn]
      simpa [p] using hl

end Text

namespace Logger

variable {l : Logger}

theorem size_pop_lt {e : Entry} (h : l.pop.value = some e) :
    l.pop.logger.backlog.size < l.backlog.size := by
  rw [value_pop] at h
  have hl := List.length_pos_of_mem (List.mem_of_getLast? h)
  rw [logger_pop, Backlog.size, Backlog.size, entries_withEntries, List.length_dropLast]
  omega

def popUntilNone (l : Logger) : Performance (List Entry) :=
  match _h : l.pop.value with
  | none => l.pop.map fun _ => []
  | some e => (l.pop.map fun _ => [e]).append (popUntilNone l.pop.logger)
termination_by l.backlog.size
decreasing_by exact size_pop_lt _h

theorem popUntilNone_of_nil (h : l.backlog.entries = []) :
    l.popUntilNone = { value := [], logger := l } := by
  have hp := pop_of_nil l h
  rw [popUntilNone]
  split
  · rw [hp]
    rfl
  · next e hv =>
    rw [hp] at hv
    cases hv

theorem popUntilNone_of_append {es : List Entry} {e : Entry} (h : l.backlog.entries = es ++ [e]) :
    l.popUntilNone = (l.pop.map fun _ => [e]).append (l.withEntries es).popUntilNone := by
  have hp := pop_of_append l h
  rw [popUntilNone]
  split
  · next hv =>
    rw [hp] at hv
    cases hv
  · next d hv =>
    rw [hp] at hv ⊢
    cases hv
    rfl

theorem popUntilNone_eq (es : List Entry) (h : l.backlog.entries = es) :
    l.popUntilNone.value = es.reverse ∧ l.popUntilNone.logger = l.withEntries [] ∧
      l.popUntilNone.deliveries = [] := by
  induction es using List.reverseRecOn generalizing l with
  | nil =>
    rw [popUntilNone_of_nil h]
    exact ⟨rfl, congrArg l.withEntries h, rfl⟩
  | append_singleton es e ih =>
    obtain ⟨hv, hl, hd⟩ := ih (l := l.withEntries es) rfl
    rw [popUntilNone_of_append h, List.reverse_concat]
    refine ⟨congrArg (e :: ·) hv, hl, ?_⟩
    show l.pop.deliveries ++ _ = _
    rw [deliveries_pop, hd, List.append_nil]

theorem drainUpTo_eq_popUntilNone (es : List Entry) (h : l.backlog.entries = es) :
    l.drainUpTo es.length =
      l.popUntilNone.map (List.map fun e => Text.withoutFinalNewlines e.text) := by
  induction es using List.reverseRecOn generalizing l with
  | nil =>
    rw [popUntilNone_of_nil h]
    rfl
  | append_singleton es e ih =>
    have hr := ih (l := l.withEntries es) rfl
    rw [popUntilNone_of_append h, l.drainUpTo_of_append h, hr]
    rfl

theorem run_popInto_eq (es : List Entry) (h : l.backlog.entries = es)
    {buffers : List (List UInt8)} (hn : buffers.length = es.length) {limit : Nat}
    (ht : ∀ e ∈ es, e.text.utf8ByteSize ≤ limit) (hb : ∀ b ∈ buffers, b ≠ [] ∧ limit ≤ b.length) :
    let p := l.run (buffers.map fun b => .popInto (some b) false)
    (∃ copies : List Copied, p.value = copies.map (fun c => .copied (.ok c)) ∧
        copies.map Copied.content = es.reverse.map fun e => e.text.toByteArray.data.toList) ∧
      p.logger = l.withEntries [] ∧ p.deliveries = [] := by
  -- on what waits, from the newest on
  induction es using List.reverseRecOn generalizing l buffers with
  | nil =>
    rw [List.eq_nil_of_length_eq_zero hn]
    exact ⟨⟨[], rfl, rfl⟩, congrArg l.withEntries h, rfl⟩
  | append_singleton es e ih =>
    rw [List.length_append, List.length_singleton] at hn
    obtain ⟨b, rest, rfl⟩ := List.exists_cons_of_length_eq_add_one hn
    obtain ⟨⟨hne, hle⟩, hbs⟩ := List.forall_mem_cons.mp hb
    have hp := popInto_of_append h hne false
    obtain ⟨⟨copies, hv, hc⟩, hl, hd⟩ := ih (l := l.withEntries es) rfl (Nat.succ.inj hn)
      (fun d hm => ht d (List.mem_append_left _ hm)) hbs
    intro p
    have hr : p = ((l.popInto (some b) false).map fun r => [Reply.copied r]).append
        ((l.withEntries es).run (rest.map fun b => .popInto (some b) false)) := by
      show ((l.popInto (some b) false).map fun r => [Reply.copied r]).append
        ((l.popInto (some b) false).logger.run _) = _
      rw [hp]
    rw [hr, hp]
    refine ⟨⟨copyInto b (e.render false) :: copies, congrArg (_ :: ·) hv, ?_⟩, hl, hd⟩
    rw [List.map_cons, hc, List.reverse_concat, List.map_cons, content_copyInto]
    exact congrArg (· :: _) (bytesWithin_of_le ((ht e List.mem_concat_self).trans hle))

/-- A drain comes to an end as pops until nothing is left do; it delivers nothing, empties the backlog and
changes nothing else. From the newest on it gives the texts that an emission of all would deliver,
without the line feeds at their ends. Pops give the same messages with these texts as they are, and so
do copies into buffers of 400 bytes, one for each message. -/
theorem Reachable.retrievals_agree (h : Reachable l) :
    let texts := ((l.emit 0 false).deliveries.map Delivery.text).reverse
    let popped := l.popUntilNone
    l.drain = popped.map (List.map fun e => Text.withoutFinalNewlines e.text) ∧
      l.drain.deliveries = [] ∧ l.drain.logger = l.withEntries [] ∧
      List.Forall₂ Text.IsTrimmed texts l.drain.value ∧
      popped.value = l.backlog.entries.reverse ∧ popped.value.map Entry.text = texts ∧
      popped.deliveries = [] ∧ popped.logger = l.withEntries [] ∧
      ∀ buffers : List (List UInt8), buffers.length = l.backlog.size →
        (∀ b ∈ buffers, 400 ≤ b.length) →
        let p := l.run (buffers.map fun b => .popInto (some b) false)
        (∃ copies : List Copied, p.value = copies.map (fun c => .copied (.ok c)) ∧
            copies.map Copied.content = texts.map fun t => t.toByteArray.data.toList) ∧
          p.logger = l.withEntries [] ∧ p.deliveries = [] := by
  intro texts popped
  have ht : texts = l.backlog.entries.reverse.map Entry.text := by
    have hr : Delivery.text ∘ l.emission false = Entry.text := by
      funext e
      exact e.render_false
    rw [List.map_reverse, ← hr, ← List.map_map, ← (l.emit_all false).2.1]
  obtain ⟨hv, hl, hd⟩ : popped.value = _ ∧ popped.logger = _ ∧ popped.deliveries = _ :=
    popUntilNone_eq l.backlog.entries rfl
  refine ⟨drainUpTo_eq_popUntilNone l.backlog.entries rfl, l.deliveries_drain, l.logger_drain, ?_, hv,
    ?_, hd, hl, fun buffers hn hb => ?_⟩
  · rw [ht, value_drain, List.forall₂_map_left_iff, List.forall₂_map_right_iff, List.forall₂_same]
    intro e _
    exact Text.isTrimmed_withoutFinalNewlines e.text
  · rw [hv, ht]
  · rw [ht, List.map_map]
    have hs : ∀ e ∈ l.backlog.entries, e.text.utf8ByteSize ≤ 400 :=
      fun e he => h.wellFormed.text_le he
    refine run_popInto_eq l.backlog.entries rfl hn hs fun b hm => ⟨?_, hb b hm⟩
    rintro rfl
    exact absurd (hb [] hm) (by decide)

theorem retrievals_agree_of_line_feeds :
    let given : Settings Sink :=
      { logPrefix := some "\n", maxMessages := 3, retention := some .all }
    let l := (initial.configure given).logger
    let calls : List Call :=
      [.log .info none "\n", .log .error (some "reader") "é\n", .log .info none ""]
    let m := (l.run calls).logger
    let buffers := List.replicate 3 (List.replicate 400 (0xaa : UInt8))
    let texts := ["\n", "Error: é\n", "\n\n"]
    Reachable m ∧ buffers.length = m.backlog.size ∧ (∀ b ∈ buffers, 400 ≤ b.length) ∧
      ((m.emit 0 false).deliveries.map Delivery.text).reverse = texts ∧
      m.drain.value = ["", "Error: é", ""] ∧ List.Forall₂ Text.IsTrimmed texts m.drain.value ∧
      m.popUntilNone.value.map Entry.text = texts ∧
      ∃ copies : List Copied,
        (m.run (buffers.map fun b => .popInto (some b) false)).value =
            copies.map (fun c => .copied (.ok c)) ∧
          copies.map Copied.content = texts.map fun t => t.toByteArray.data.toList := by
  intro given l calls m buffers texts
  have hl : Reachable l := Reachable.initial.request (.call (.configure given))
  have hm : Reachable m := hl.after (calls.map .call)
  have hn : buffers.length = m.backlog.size := by decide +kernel
  have hb : ∀ b ∈ buffers, 400 ≤ b.length := by
    intro b hb
    rw [List.eq_of_mem_replicate hb]
    exact List.length_replicate.ge
  have ht : ((m.emit 0 false).deliveries.map Delivery.text).reverse = texts := by decide +kernel
  obtain ⟨-, -, -, hf, -, hp, -, -, hc⟩ := hm.retrievals_agree
  obtain ⟨hc, -, -⟩ := hc buffers hn hb
  rw [ht] at hf hp hc
  exact ⟨hm, hn, hb, ht, by decide +kernel, hf, hp, hc⟩

end Logger

end Logbook
