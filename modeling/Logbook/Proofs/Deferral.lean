import Logbook.Proofs.Burst

namespace Logbook.Logger

def withCapacity (l : Logger) (capacity : Nat) : Logger :=
  { l with backlog := .empty capacity }

/-- Of deliveries made one for each message, those that belong to messages of some severities. -/
def ofSeverity (p : Severity → Bool) (ms : List Message) (ds : List Delivery) : List Delivery :=
  ((ms.zip ds).filter fun x => p x.1.severity).map Prod.snd

theorem ofSeverity_map (p : Severity → Bool) (ms : List Message) (f : Message → Delivery) :
    ofSeverity p ms (ms.map f) = (ms.filter fun m => p m.severity).map f := by
  induction ms with
  | nil => rfl
  | cons m rest ih =>
    rw [ofSeverity] at ih ⊢
    rw [List.map_cons, List.zip_cons_cons]
    by_cases h : p m.severity = true <;> simp [h, ih]

theorem deferred_run (l : Logger) {capacity : Nat} (h : capacity ≠ 0) (ms : List Message) :
    let waiting := (l.withCapacity capacity).run (ms.map Message.call)
    waiting.deliveries = (ms.filter fun m => !m.waits l).map (Message.delivery l) ∧
      (waiting.logger.emit 0 false).deliveries =
        ((ms.filter (Message.waits l)).map (Message.delivery l)).rtake capacity := by
  intro waiting
  have hr := run_messages (l := l.withCapacity capacity) h (Nat.zero_le _) ms
  refine ⟨hr.2, ?_⟩
  rw [(emit_all waiting.logger false).2.1, hr.1, entries_withEntries, Backlog.map_rtake, withCapacity,
    Backlog.empty, List.nil_append, List.map_map]
  rfl

/-- Two loggers that differ in capacity alone hand over the same texts to the same sinks in the same
order. One does so at once. The other lets pass what does not wait, and emits of the rest as many
of the last as it has room for. -/
theorem emission_of_deferred (l : Logger) (capacity : Nat) (h : capacity ≠ 0) (ms : List Message) :
    let immediate := ((l.withCapacity 0).run (ms.map Message.call)).deliveries
    let waiting := (l.withCapacity capacity).run (ms.map Message.call)
    let emitted := waiting.logger.emit 0 false
    immediate.length = ms.length ∧
      (match l.retention with
        | .all => waiting.deliveries = [] ∧ emitted.deliveries = immediate.rtake capacity
        | .diagnosticsOnly =>
          waiting.deliveries = ofSeverity (· = .info) ms immediate ∧
            emitted.deliveries =
              (ofSeverity (fun s => s = .warning ∨ s = .error) ms immediate).rtake capacity) ∧
      emitted.value = emitted.deliveries.length ∧ emitted.logger.backlog.entries = [] := by
  intro immediate waiting emitted
  have hi : immediate = ms.map (Message.delivery l) :=
    (run_messages_of_disabled (l := l.withCapacity 0) rfl ms).2
  obtain ⟨hw, he⟩ := l.deferred_run h ms
  obtain ⟨hv, hd, hl⟩ := emit_all waiting.logger false
  refine ⟨by rw [hi, List.length_map], ?_, ?_, ?_⟩
  · cases hr : l.retention with
    | all =>
      have hk : ∀ m : Message, m.waits l = true := by
        intro m
        rw [Message.waits, hr]
        rfl
      have hf : ms.filter (fun m => !m.waits l) = [] :=
        List.filter_eq_nil_iff.mpr fun m _ => by simp [hk]
      have hs : ms.filter (Message.waits l) = ms := List.filter_eq_self.mpr fun m _ => hk m
      refine ⟨?_, ?_⟩
      · rw [hw, hf, List.map_nil]
      · rw [he, hs, hi]
    | diagnosticsOnly =>
      -- the two severities are those that wait, and the third is the one that does not
      have hk : ∀ m : Message, m.waits l = decide (m.severity = .warning ∨ m.severity = .error) := by
        intro m
        rw [Message.waits, hr]
        cases m.severity <;> rfl
      have hn : ∀ m : Message, (!m.waits l) = decide (m.severity = .info) := by
        intro m
        rw [Message.waits, hr]
        cases m.severity <;> rfl
      refine ⟨?_, ?_⟩
      · rw [hw, hi, ofSeverity_map, funext hn]
      · rw [he, hi, ofSeverity_map, funext hk]
  · rw [hv, hd, List.length_map]
  · rw [hl, entries_withEntries]

theorem emission_of_three_deferred :
    let ms : List Message :=
      [⟨.warning, none, "gap"⟩, ⟨.info, some "reader", "ready"⟩, ⟨.error, none, "overlap"⟩]
    let waiting := (initial.withCapacity 1).run (ms.map Message.call)
    1 ≠ 0 ∧ waiting.deliveries = [⟨.output .terminated, "ready"⟩] ∧
      (waiting.logger.emit 0 false).deliveries = [⟨.errors .terminated, "Error: overlap"⟩] := by
  intro ms waiting
  have h := emission_of_deferred initial 1 Nat.one_ne_zero ms
  exact ⟨Nat.one_ne_zero, h.2.1.1.trans (by decide), h.2.1.2.trans (by decide)⟩

end Logbook.Logger
