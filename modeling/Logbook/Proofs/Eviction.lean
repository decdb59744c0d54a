import Logbook.Proofs.Burst
import Logbook.Proofs.Host.Access
import Logbook.Proofs.Notices
import Logbook.Proofs.Reachable

namespace Logbook

namespace Backlog

variable {α : Type}

/-- Appends the item, then gives up the oldest items as long as there are too many. -/
def appendFirst (b : Backlog α) (a : α) : List α × Backlog α :=
  let all := b.entries ++ [a]
  (all.take (all.length - b.capacity), { b with entries := all.drop (all.length - b.capacity) })

def appendAll (b : Backlog α) : List α → List α × Backlog α
  | [] => ([], b)
  | a :: rest =>
    let first := b.appendFirst a
    let others := appendAll first.2 rest
    (first.1 ++ others.1, others.2)

theorem push_eq_appendFirst {b : Backlog α} (h : b.size ≤ b.capacity) (a : α) :
    b.push a = b.appendFirst a := by
  by_cases hc : b.capacity = 0
  · -- the item itself is the one too many
    have hn : b.entries = [] := by
      apply List.eq_nil_of_length_eq_zero
      rw [size] at h
      omega
    rw [push_of_capacity_eq_zero hc]
    obtain ⟨capacity, entries⟩ := b
    subst hc hn
    rfl
  · apply Prod.ext
    · have hl : b.entries.length - (b.capacity - 1) = b.entries.length + 1 - b.capacity := by omega
      have hle : b.entries.length + 1 - b.capacity ≤ b.entries.length := by omega
      simp only [push, hc, if_false, evict_eq, hl, appendFirst, List.length_append,
        List.length_singleton, List.take_append_of_le_length hle]
    · exact push_snd hc a

theorem size_appendFirst_le (b : Backlog α) (a : α) : (b.appendFirst a).2.size ≤ b.capacity := by
  rw [appendFirst, size, List.length_drop]
  omega

theorem appendAll_append (b : Backlog α) (as : List α) :
    (b.appendAll as).1 ++ (b.appendAll as).2.entries = b.entries ++ as := by
  induction as generalizing b with
  | nil => exact (List.append_nil _).symm
  | cons a rest ih =>
    have ha : (b.appendFirst a).1 ++ (b.appendFirst a).2.entries = b.entries ++ [a] :=
      List.take_append_drop _ _
    rw [appendAll, List.append_assoc, ih, ← List.append_assoc, ha, List.append_assoc,
      List.singleton_append]

theorem appendAll_snd {b : Backlog α} (h : b.size ≤ b.capacity) (as : List α) :
    (b.appendAll as).2 = { b with entries := (b.entries ++ as).rtake b.capacity } := by
  induction as generalizing b with
  | nil => rw [appendAll, List.append_nil, rtake_of_length_le h]
  | cons a rest ih =>
    have he : (b.appendFirst a).2 = { b with entries := (b.entries ++ [a]).rtake b.capacity } := rfl
    rw [appendAll, ih (b.size_appendFirst_le a), he, rtake_rtake_append, List.append_assoc,
      List.singleton_append]

end Backlog

namespace Message

theorem delivery_eq (l : Logger) (m : Message) :
    m.delivery l = ⟨l.sinkFor m.severity, l.format m.severity m.text⟩ := by
  rw [delivery, Logger.emission, Entry.render_false]
  rfl

end Message

namespace Logger

variable {l : Logger}

theorem notices_log_eq_replicate {s : Severity} (hk : l.keeps s = true)
    (hs : l.backlog.size ≤ l.backlog.capacity) (origin : Option String) (message : String) :
    (l.log s origin message).notices =
      List.replicate (l.backlog.size + 1 - l.backlog.capacity) (.evicted 1 l.backlog.capacity) := by
  let e := l.entryOf s origin message
  have hn : (l.log s origin message).notices = _ := notices_log_of_keeps hk origin message
  have hc := capacity_ne_zero_of_keeps hk
  have hl := congrArg List.length (Backlog.push_append hc e)
  rw [Backlog.push_snd hc, List.length_append, Backlog.length_rtake, List.length_append,
    List.length_singleton] at hl
  rw [hn, Backlog.capacity_push]
  obtain ⟨ht, hz⟩ | ⟨hp, ht⟩ := told_cases (l.backlog.push e).1 (Notice.evicted · l.backlog.capacity)
  · have h0 : l.backlog.size + 1 - l.backlog.capacity = 0 := by
      rw [Backlog.size] at hs ⊢
      omega
    rw [ht, h0]
    rfl
  · have h1 : (l.backlog.push e).1.length = 1 ∧ l.backlog.size + 1 - l.backlog.capacity = 1 := by
      rw [Backlog.size] at hs ⊢
      omega
    rw [ht, h1.1, h1.2]
    rfl

theorem notices_run_messages (hc : l.backlog.capacity ≠ 0)
    (hs : l.backlog.size ≤ l.backlog.capacity) (ms : List Message) :
    (l.run (ms.map Message.call)).notices =
      List.replicate (l.backlog.size + (ms.filter (Message.waits l)).length - l.backlog.capacity)
        (.evicted 1 l.backlog.capacity) := by
  induction ms generalizing l with
  | nil =>
    have hz : l.backlog.size + 0 - l.backlog.capacity = 0 := by omega
    rw [List.filter_nil, List.length_nil, hz]
    rfl
  | cons m rest ih =>
    rw [List.map_cons, notices_run_cons]
    cases hm : m.waits l with
    | true =>
      have hk : l.keeps m.severity = true := (keeps_eq_of_capacity hc _).trans hm
      have hn : (l.perform m.call).notices = _ := notices_log_eq_replicate hk hs m.origin m.text
      -- this message pushes one out if the room is used up, and leaves it used up
      obtain ⟨es, hes⟩ :
          ∃ es, es = (l.backlog.entries ++ [m.entry l]).rtake l.backlog.capacity := ⟨_, rfl⟩
      have hle : es.length = min l.backlog.capacity (l.backlog.size + 1) := by
        rw [hes, Backlog.length_rtake, List.length_append, List.length_singleton, Backlog.size]
      have hi := ih (l := l.withEntries es) hc (hle.trans_le (Nat.min_le_left _ _))
      rw [capacity_withEntries, Backlog.size, entries_withEntries, hle] at hi
      rw [hn, (perform_of_waits hc hm).1, ← hes, hi, List.filter_cons_of_pos hm, List.length_cons,
        List.replicate_append_replicate]
      congr 1
      show _ + (_ + (rest.filter (Message.waits l)).length - _) = _
      omega
    | false =>
      have hk : l.keeps m.severity = false := (keeps_eq_of_capacity hc _).trans hm
      have hn : (l.perform m.call).notices = [] := notices_log_of_not_keeps hk m.origin m.text
      rw [hn, (perform_of_not_waits hc hm).1, ih hc hs, List.filter_cons_of_neg (by simp [hm]),
        List.nil_append]

/-- After a burst the last of what waited and what was to wait are kept, as many as fit, and the rest
was handed over. One notice tells of each message that is too many. This is what appending first and
giving up afterwards would leave and give up. A host whose sinks ask nothing sees no more of it. -/
theorem Reachable.eviction_of_burst (h : Reachable l) (hc : l.backlog.capacity ≠ 0)
    (ms : List Message) :
    let kept := (ms.filter (Message.waits l)).map (Message.entry l)
    let all := l.backlog.entries ++ kept
    let tooMany := all.length - l.backlog.capacity
    let told := List.replicate tooMany (Notice.evicted 1 l.backlog.capacity)
    let p := l.run (ms.map Message.call)
    p.logger = l.withEntries (all.rtake (min l.backlog.capacity all.length)) ∧
      p.deliveries =
        (ms.filter fun m => !m.waits l).map
          (fun m => ⟨l.sinkFor m.severity, l.format m.severity m.text⟩) ∧
      p.notices = told ∧
      (∀ e, l.backlog.push e = l.backlog.appendFirst e) ∧
      l.backlog.appendAll kept = (all.take tooMany, p.logger.backlog) ∧
      ∀ host : Host, host.Quiet → host.filter = .upTo .trace →
        ∃ g, Host.ownAll l (ms.map Message.call) host = .done g (p.value, p.logger) ∧
          g = host.shown p ∧ g.notices = host.notices ++ told := by
  intro kept all tooMany told p
  have hs := h.wellFormed.size_le
  obtain ⟨hl, hd⟩ := run_messages hc hs ms
  have hn : p.notices = told := by
    have hr := notices_run_messages hc hs ms
    rwa [← List.length_map (Message.entry l), Backlog.size, ← List.length_append] at hr
  have ha := Backlog.appendAll_snd hs kept
  have hb : p.logger.backlog = (l.backlog.appendAll kept).2 := by
    rw [hl, ha]
    rfl
  refine ⟨?_, ?_, hn, fun e => Backlog.push_eq_appendFirst hs e, ?_, fun host hq hf => ?_⟩
  · have hm : all.rtake (min l.backlog.capacity all.length) = all.rtake l.backlog.capacity := by
      have he : all.length - min l.backlog.capacity all.length = all.length - l.backlog.capacity := by
        omega
      rw [List.rtake, List.rtake, he]
    rw [hm]
    exact hl
  · rw [hd]
    exact List.map_congr_left fun m _ => m.delivery_eq l
  · -- what stays is known, and with what is given up it is everything
    have hg : (l.backlog.appendAll kept).1 ++ (l.backlog.appendAll kept).2.entries =
        all.take tooMany ++ (l.backlog.appendAll kept).2.entries := by
      rw [Backlog.appendAll_append, ha]
      exact (List.take_append_drop _ _).symm
    exact Prod.ext (List.append_cancel_right hg) hb.symm
  · exact ⟨_, Host.ownAll_of_quiet hq l _, rfl, (Host.notices_shown hf p).trans (by rw [hn])⟩

theorem eviction_of_burst_of_four :
    let l := (initial.configure { logPrefix := some "> ", maxMessages := 2 }).logger
    let m := (l.log .warning none "old").logger
    let ms : List Message :=
      [⟨.info, none, "ready"⟩, ⟨.error, some "reader", "first"⟩, ⟨.warning, none, "gap"⟩,
        ⟨.error, none, "second"⟩]
    let p := m.run (ms.map Message.call)
    let host : Host := { devices := [.collecting ["earlier"]] }
    Reachable m ∧ m.backlog.capacity ≠ 0 ∧ host.Quiet ∧ host.filter = .upTo .trace ∧
      p.logger.backlog.entries = [⟨.warning, none, "Warning: gap"⟩, ⟨.error, none, "Error: second"⟩] ∧
      p.deliveries = [⟨.output .terminated, "> ready"⟩] ∧
      p.notices = [.evicted 1 2, .evicted 1 2] ∧
      ∃ g, Host.ownAll m (ms.map Message.call) host = .done g (p.value, p.logger) ∧
        g.output = "> ready\n" ∧ g.notices = [.evicted 1 2, .evicted 1 2] := by
  intro l m ms p host
  have hl : Reachable l := Reachable.initial.request (.call (.configure _))
  have hm : Reachable m := hl.request (.call (.log .warning none "old"))
  have hc : m.backlog.capacity ≠ 0 := by decide
  have hq : host.Quiet := by
    intro d hd r hr
    rw [List.mem_singleton.mp hd] at hr
    exact absurd hr List.not_mem_nil
  obtain ⟨he, hd, hn, -, -, hh⟩ := hm.eviction_of_burst hc ms
  obtain ⟨g, hg, hs, ht⟩ := hh host hq rfl
  refine ⟨hm, hc, hq, rfl, ?_, hd.trans (by decide), hn.trans (by decide), g, hg, ?_,
    ht.trans (by decide)⟩
  · rw [he]
    decide
  · rw [hs]
    decide

end Logger

end Logbook
