import Logbook.Proofs.Configuration
import Logbook.Proofs.Logger

namespace Logbook

def Call.leaves (es : List Entry) : Call → List Entry
  | .emit n _ => if n = 0 then [] else es.drop n
  | .pop => es.dropLast
  | .popInto (some (_ :: _)) _ => es.dropLast
  | .drain => []
  | .discard => []
  | _ => es

theorem Call.leaves_suffix_leaves (c : Call) {es fs : List Entry} (h : es <:+ fs) :
    c.leaves es <:+ c.leaves fs := by
  have hn := h.length_le
  have hd := Backlog.dropLast_suffix_dropLast h
  cases c with
  | emit count context =>
    by_cases hc : count = 0
    · simp [leaves, hc]
    · rw [leaves, leaves, if_neg hc, if_neg hc]
      apply Backlog.drop_suffix_drop h
      omega
  | pop => exact hd
  | popInto buffer context =>
    cases buffer with
    | none => exact h
    | some bytes =>
      cases bytes with
      | nil => exact h
      | cons => exact hd
  | drain | discard => exact List.suffix_rfl
  | log | configure | start | count | capacity => exact h

theorem Call.length_leaves_le (c : Call) (es : List Entry) : (c.leaves es).length ≤ es.length := by
  unfold leaves
  split <;> grind

namespace Logger

def brings (l : Logger) : Call → List Entry
  | .log s origin message => if l.retention.keeps s then [l.entryOf s origin message] else []
  | _ => []

theorem logger_perform_eq {l : Logger} (hs : l.backlog.size ≤ l.backlog.capacity) {c : Call}
    (hc : c.settings? = none) :
    (l.perform c).logger =
      l.withEntries ((c.leaves l.backlog.entries ++ l.brings c).rtake l.backlog.capacity) := by
  -- what is left fits, so the room matters only for what comes
  have hr : ∀ d : Call, l.brings d = [] →
      (d.leaves l.backlog.entries ++ l.brings d).rtake l.backlog.capacity =
        d.leaves l.backlog.entries := by
    intro d hd
    rw [hd, List.append_nil]
    exact Backlog.rtake_of_length_le ((d.length_leaves_le _).trans hs)
  cases c with
  | log s origin message =>
    by_cases hk : l.keeps s = true
    · have hb : l.retention.keeps s = true := (Bool.and_eq_true_iff.mp hk).2
      rw [brings, if_pos hb]
      exact logger_log_of_keeps hk origin message
    · have hl : (l.perform (.log s origin message)).logger = l :=
        (log_of_not_keeps (Bool.eq_false_iff.mpr hk) origin message).1
      rw [hl]
      by_cases hz : l.backlog.capacity = 0
      · have hn : l.backlog.entries = [] := by
          apply List.eq_nil_of_length_eq_zero
          rw [Backlog.size] at hs
          omega
        rw [hz, List.rtake_zero, ← hn, withEntries_entries]
      · have hb : ¬l.retention.keeps s = true := by
          simpa [keeps, Backlog.isEnabled, Nat.pos_of_ne_zero hz] using hk
        have hn : l.brings (.log s origin message) = [] := if_neg hb
        rw [hr _ hn]
        rfl
  | emit count context =>
    rw [hr _ rfl, Call.leaves, ← Backlog.entries_takeOldest]
    rfl
  | pop =>
    rw [hr _ rfl]
    exact l.logger_pop
  | popInto buffer context =>
    rw [hr _ rfl]
    cases buffer with
    | none => rfl
    | some bytes =>
      cases bytes with
      | nil => rfl
      | cons => exact l.logger_pop
  | drain =>
    rw [hr _ rfl]
    exact l.logger_drain
  | discard | count | capacity =>
    rw [hr _ rfl]
    rfl
  | configure s => cases hc
  | start s => cases hc

/-- `m` formats and keeps messages as `l` does, it has room for as many, and of what waits in it the
newest part waits in `l`. -/
structure Within (l m : Logger) : Prop where
  logPrefix : l.logPrefix = m.logPrefix
  diagnosticPrefix : l.diagnosticPrefix = m.diagnosticPrefix
  retention : l.retention = m.retention
  capacity_le : l.backlog.capacity ≤ m.backlog.capacity
  size_le : l.backlog.size ≤ l.backlog.capacity
  size_le' : m.backlog.size ≤ m.backlog.capacity
  suffix : l.backlog.entries <:+ m.backlog.entries

namespace Within

variable {l m : Logger}

theorem prefixFor (h : l.Within m) (s : Severity) : l.prefixFor s = m.prefixFor s := by
  rw [Logger.prefixFor, Logger.prefixFor, h.logPrefix, h.diagnosticPrefix]

theorem brings (h : l.Within m) (c : Call) : l.brings c = m.brings c := by
  cases c with
  | log s origin message =>
    simp only [Logger.brings, entryOf, format, h.retention, h.prefixFor]
  | _ => rfl

theorem perform (h : l.Within m) {c : Call} (hc : c.settings? = none) :
    (l.perform c).logger.Within (m.perform c).logger := by
  rw [logger_perform_eq h.size_le hc, logger_perform_eq h.size_le' hc]
  have hr : ∀ n (es : List Entry), (es.rtake n).length ≤ n := by
    intro n es
    rw [Backlog.length_rtake]
    exact Nat.min_le_left n _
  refine ⟨h.logPrefix, h.diagnosticPrefix, h.retention, h.capacity_le, hr _ _, hr _ _, ?_⟩
  apply Backlog.rtake_suffix_rtake h.capacity_le
  obtain ⟨es, he⟩ := c.leaves_suffix_leaves h.suffix
  rw [h.brings, ← he, List.append_assoc]
  exact List.suffix_append es _

theorem run (h : l.Within m) {cs : List Call} (hcs : ∀ c ∈ cs, c.settings? = none) :
    (l.run cs).logger.Within (m.run cs).logger := by
  induction cs generalizing l m with
  | nil => exact h
  | cons c rest ih =>
    obtain ⟨hc, hr⟩ := List.forall_mem_cons.mp hcs
    exact ih (h.perform hc) hr

end Within

/-- Two loggers with the same prefixes and the same retention begin with nothing. Whatever they log
and give back, and wherever it goes, after any number of calls the newest messages in the one with
more room are those in the one with less. -/
theorem entries_suffix_of_capacity_le {l m : Logger} (hl : l.logPrefix = m.logPrefix)
    (hd : l.diagnosticPrefix = m.diagnosticPrefix) (hr : l.retention = m.retention) {few many : Nat}
    (hn : few ≤ many) (hf : l.backlog = .empty few) (hm : m.backlog = .empty many)
    {cs : List Call} (hcs : ∀ c ∈ cs, c.settings? = none) (n : Nat) :
    (l.run (cs.take n)).logger.backlog.entries <:+ (m.run (cs.take n)).logger.backlog.entries := by
  have hw : l.Within m := by
    refine ⟨hl, hd, hr, ?_, ?_, ?_, ?_⟩
    · rw [hf, hm]
      exact hn
    · rw [hf]
      exact Nat.zero_le _
    · rw [hm]
      exact Nat.zero_le _
    · rw [hf]
      exact List.nil_suffix
  exact (hw.run fun c hc => hcs c (List.mem_of_mem_take hc)).suffix

/-- The smaller one has lost a message that the larger one emits. Then both hold the same, until the
larger one gives back a message that the smaller one never kept. -/
theorem entries_suffix_of_one_and_two :
    let l : Logger := { initial with backlog := .empty 1 }
    let m : Logger := { initial with logSink := .device 0, backlog := .empty 2 }
    let cs : List Call :=
      [.log .error none "first", .log .info none "ready", .log .warning (some "reader") "second",
        .emit 1 false, .log .error none "third", .pop, .popInto (some [0]) true]
    let left (k : Logger) (n : Nat) := ((k.run (cs.take n)).logger.backlog.entries).map Entry.text
    (∀ c ∈ cs, c.settings? = none) ∧
      (∀ n, (l.run (cs.take n)).logger.backlog.entries <:+
        (m.run (cs.take n)).logger.backlog.entries) ∧
      left l 3 = ["Warning: second"] ∧ left m 3 = ["Error: first", "Warning: second"] ∧
      left l 4 = [] ∧ left m 4 = ["Warning: second"] ∧
      left l 5 = ["Error: third"] ∧ left m 5 = ["Warning: second", "Error: third"] ∧
      left l 6 = [] ∧ left m 6 = ["Warning: second"] ∧ left m 7 = [] := by
  intro l m cs left
  have hcs : ∀ c ∈ cs, c.settings? = none := by decide
  refine ⟨hcs, fun n => ?_, by decide, by decide, by decide, by decide, by decide, by decide,
    by decide, by decide, by decide⟩
  exact entries_suffix_of_capacity_le (l := l) (m := m) rfl rfl rfl (Nat.le_succ 1) rfl rfl hcs n

end Logger

end Logbook
