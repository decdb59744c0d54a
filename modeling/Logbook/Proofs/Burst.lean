import Logbook.Proofs.Logger

namespace Logbook

structure Message where
  severity : Severity
  origin : Option String
  text : String

namespace Message

def call (m : Message) : Call := .log m.severity m.origin m.text

def entry (l : Logger) (m : Message) : Entry := l.entryOf m.severity m.origin m.text

def delivery (l : Logger) (m : Message) : Delivery := l.emission false (m.entry l)

def waits (l : Logger) (m : Message) : Bool := l.retention.keeps m.severity

end Message

namespace Logger

theorem keeps_eq_of_capacity {l : Logger} (h : l.backlog.capacity ≠ 0) (s : Severity) :
    l.keeps s = l.retention.keeps s := by
  simp [keeps, Backlog.isEnabled, Nat.pos_of_ne_zero h]

theorem keeps_of_disabled {l : Logger} (h : l.backlog.capacity = 0) (s : Severity) :
    l.keeps s = false := by
  simp [keeps, Backlog.isEnabled, h]

theorem perform_of_waits {l : Logger} (hc : l.backlog.capacity ≠ 0) {m : Message}
    (hm : m.waits l = true) :
    (l.perform m.call).logger =
        l.withEntries ((l.backlog.entries ++ [m.entry l]).rtake l.backlog.capacity) ∧
      (l.perform m.call).deliveries = [] := by
  have hk : l.keeps m.severity = true := (keeps_eq_of_capacity hc _).trans hm
  exact ⟨logger_log_of_keeps hk m.origin m.text, (log_of_keeps hk m.origin m.text).2⟩

theorem perform_of_not_waits {l : Logger} (hc : l.backlog.capacity ≠ 0) {m : Message}
    (hm : m.waits l = false) :
    (l.perform m.call).logger = l ∧ (l.perform m.call).deliveries = [m.delivery l] :=
  log_of_not_keeps ((keeps_eq_of_capacity hc _).trans hm) m.origin m.text

theorem run_messages_of_disabled {l : Logger} (h : l.backlog.capacity = 0) (ms : List Message) :
    (l.run (ms.map Message.call)).logger = l ∧
      (l.run (ms.map Message.call)).deliveries = ms.map (Message.delivery l) := by
  induction ms with
  | nil => exact ⟨rfl, rfl⟩
  | cons m rest ih =>
    have hk : (l.perform m.call).logger = l ∧ (l.perform m.call).deliveries = [m.delivery l] :=
      log_of_not_keeps (keeps_of_disabled h m.severity) m.origin m.text
    rw [List.map_cons, logger_run_cons, deliveries_run_cons, hk.1, hk.2, ih.1, ih.2]
    exact ⟨rfl, rfl⟩

/-- Of all that is to wait the last part waits, as each push sees the last part of what came before. -/
theorem run_messages {l : Logger} (h : l.backlog.capacity ≠ 0)
    (hs : l.backlog.size ≤ l.backlog.capacity) (ms : List Message) :
    (l.run (ms.map Message.call)).logger =
        l.withEntries ((l.backlog.entries ++
          (ms.filter (Message.waits l)).map (Message.entry l)).rtake l.backlog.capacity) ∧
      (l.run (ms.map Message.call)).deliveries =
        (ms.filter fun m => !m.waits l).map (Message.delivery l) := by
  induction ms generalizing l with
  | nil =>
    rw [List.filter_nil, List.map_nil, List.map_nil, List.append_nil,
      Backlog.rtake_of_length_le hs]
    exact ⟨rfl, rfl⟩
  | cons m rest ih =>
    rw [List.map_cons, logger_run_cons, deliveries_run_cons]
    cases hm : m.waits l with
    | true =>
      obtain ⟨hl, hd⟩ := perform_of_waits h hm
      -- what waits now is all that the messages behind this one see
      obtain ⟨es, hes⟩ :
          ∃ es, es = (l.backlog.entries ++ [m.entry l]).rtake l.backlog.capacity := ⟨_, rfl⟩
      rw [← hes] at hl
      have hle : es.length ≤ l.backlog.capacity := by
        rw [hes, Backlog.length_rtake]
        exact Nat.min_le_left _ _
      obtain ⟨hrl, hrd⟩ := ih (l := l.withEntries es) h hle
      rw [hl, hd, hrl, hrd, List.filter_cons_of_pos hm, List.filter_cons_of_neg (by simp [hm])]
      refine ⟨?_, rfl⟩
      rw [withEntries_withEntries, entries_withEntries, capacity_withEntries, hes,
        Backlog.rtake_rtake_append, List.append_assoc]
      rfl
    | false =>
      obtain ⟨hl, hd⟩ := perform_of_not_waits h hm
      obtain ⟨hrl, hrd⟩ := ih h hs
      rw [hl, hd, hrl, hrd, List.filter_cons_of_neg (by simp [hm]),
        List.filter_cons_of_pos (by simp [hm])]
      exact ⟨rfl, rfl⟩

end Logger

end Logbook
