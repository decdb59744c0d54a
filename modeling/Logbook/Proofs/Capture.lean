import Logbook.Proofs.Burst
import Logbook.Proofs.Reachable

namespace Logbook

namespace Logger

/-- Of the warnings and errors that come, the last `n` wait, and the other messages go straight to the
standard output, each of them. -/
def CapturesErrors (l : Logger) (n : Nat) : Prop :=
  ∀ ms : List Message,
    let p := l.run (ms.map Message.call)
    p.logger.backlog.entries =
        ((ms.filter fun m => m.severity ≠ .info).map (Message.entry l)).rtake n ∧
      p.deliveries.filter (fun d => d.sink = .builtin .log) =
        (ms.filter fun m => m.severity = .info).map fun m => ⟨.builtin .log, (m.entry l).text⟩

def capturing (l : Logger) (logPrefix errorPrefix : Option String) (n : Nat) : Logger :=
  ((Request.capture logPrefix errorPrefix n).perform l).logger

theorem run_messages_of_empty {l : Logger} {n : Nat} (hl : l.backlog = .empty n)
    (ms : List Message) :
    (l.run (ms.map Message.call)).logger.backlog.entries =
        ((ms.filter (Message.waits l)).map (Message.entry l)).rtake n ∧
      (l.run (ms.map Message.call)).deliveries =
        if n = 0 then ms.map (Message.delivery l)
        else (ms.filter fun m => !m.waits l).map (Message.delivery l) := by
  have hc : l.backlog.capacity = n := congrArg Backlog.capacity hl
  have he : l.backlog.entries = [] := congrArg Backlog.entries hl
  by_cases hn : n = 0
  · obtain ⟨hr, hd⟩ := run_messages_of_disabled (hc.trans hn) ms
    rw [hr, hd, he, hn, if_pos rfl]
    refine ⟨?_, rfl⟩
    rw [List.rtake_zero]
  · have hs : l.backlog.size ≤ l.backlog.capacity := by
      rw [Backlog.size, he]
      exact Nat.zero_le _
    obtain ⟨hr, hd⟩ := run_messages (hc ▸ hn) hs ms
    rw [hr, hd, if_neg hn, entries_withEntries, he, hc, List.nil_append]
    exact ⟨rfl, rfl⟩

section

variable (l : Logger) (logPrefix errorPrefix : Option String) (n : Nat)

theorem capturing_eq :
    l.capturing logPrefix errorPrefix n =
      l.applied (Settings.capture logPrefix errorPrefix n).accepted :=
  l.logger_configure _

/-- Both outlets have their own sinks, so the sink tells the severity. -/
theorem sink_delivery_capturing (m : Message) :
    (m.delivery (l.capturing logPrefix errorPrefix n)).sink = .builtin .log ↔
      m.severity = .info := by
  have hs : (m.delivery (l.capturing logPrefix errorPrefix n)).sink = .builtin m.severity.outlet := by
    rw [capturing_eq]
    show sinkOf _ m.severity.outlet = _
    cases m.severity <;> rfl
  rw [hs]
  cases m.severity <;> decide

theorem filter_deliveries_capturing (ms : List Message) :
    let c := l.capturing logPrefix errorPrefix n
    (ms.map (Message.delivery c)).filter (fun d => d.sink = .builtin .log) =
      (ms.filter fun m => m.severity = .info).map fun m => ⟨.builtin .log, (m.entry c).text⟩ := by
  intro c
  rw [List.filter_map]
  have hf : (fun d : Delivery => decide (d.sink = .builtin .log)) ∘ Message.delivery c =
      fun m => decide (m.severity = .info) := by
    funext m
    rw [Function.comp_apply, decide_eq_decide]
    exact sink_delivery_capturing l logPrefix errorPrefix n m
  rw [hf]
  refine List.map_congr_left fun m hm => ?_
  have hs : (m.delivery c).sink = .builtin .log :=
    (sink_delivery_capturing l logPrefix errorPrefix n m).mpr
      (of_decide_eq_true (List.mem_filter.mp hm).2)
  rw [← hs, Message.delivery, emission, Entry.render_false]

theorem capturesErrors_of_diagnosticsOnly (hl : l.retention = .diagnosticsOnly) :
    (l.capturing logPrefix errorPrefix n).CapturesErrors n := by
  intro ms
  let c := l.capturing logPrefix errorPrefix n
  have hc : c = l.applied (Settings.capture logPrefix errorPrefix n).accepted :=
    l.capturing_eq logPrefix errorPrefix n
  have hw : ∀ m : Message, m.waits c = decide (m.severity ≠ .info) := by
    intro m
    have hr : c.retention = .diagnosticsOnly := by
      rw [hc]
      exact hl
    rw [Message.waits, hr]
    cases m.severity <;> rfl
  obtain ⟨he, hd⟩ := run_messages_of_empty (l := c) (n := n) (by rw [hc]; rfl) ms
  refine ⟨by rw [he, funext hw], ?_⟩
  rw [hd]
  split
  · exact l.filter_deliveries_capturing logPrefix errorPrefix n ms
  · rw [filter_deliveries_capturing, List.filter_filter]
    congr 2
    funext m
    rw [hw]
    cases m.severity <;> rfl

end

/-- Setting a logger up to capture errors leaves its retention as it is. So it captures errors alone,
whatever comes, if and only if its retention was for diagnostics before, or nothing is to be kept. In
any case the last of the messages wait that the old retention keeps. -/
theorem capturesErrors_capturing_iff (l : Logger) (logPrefix errorPrefix : Option String) (n : Nat) :
    let c := l.capturing logPrefix errorPrefix n
    (c.CapturesErrors n ↔ l.retention = .diagnosticsOnly ∨ n = 0) ∧
      ∀ ms : List Message, (c.run (ms.map Message.call)).logger.backlog.entries =
        ((ms.filter fun m => l.retention.keeps m.severity).map (Message.entry c)).rtake n := by
  intro c
  have hc : c = l.applied (Settings.capture logPrefix errorPrefix n).accepted :=
    l.capturing_eq logPrefix errorPrefix n
  have hb : c.backlog = .empty n := by
    rw [hc]
    rfl
  have hk : ∀ ms : List Message, (c.run (ms.map Message.call)).logger.backlog.entries =
      ((ms.filter fun m => l.retention.keeps m.severity).map (Message.entry c)).rtake n := by
    intro ms
    have hw : Message.waits c = fun m => l.retention.keeps m.severity := by
      funext m
      rw [Message.waits, hc]
      rfl
    rw [(run_messages_of_empty hb ms).1, hw]
  refine ⟨⟨fun h => ?_, fun h => ?_⟩, hk⟩
  · cases ha : l.retention with
    | diagnosticsOnly => exact .inl rfl
    | all =>
      -- one message of no weight waits as soon as there is room
      have he := (h [⟨.info, none, ""⟩]).1.symm.trans (hk [⟨.info, none, ""⟩])
      have hn : min n 0 = min n 1 := by
        simpa [ha, Retention.keeps, Backlog.length_rtake] using congrArg List.length he
      exact .inr (by omega)
  · obtain hd | rfl := h
    · exact l.capturesErrors_of_diagnosticsOnly logPrefix errorPrefix n hd
    · intro ms
      refine ⟨?_, ?_⟩
      · rw [hk ms, List.rtake_zero, List.rtake_zero]
      · rw [(run_messages_of_empty hb ms).2, if_pos rfl]
        exact l.filter_deliveries_capturing logPrefix errorPrefix 0 ms

/-- A logger that keeps everything goes on with it: the error gives way to the message after it. -/
theorem not_capturesErrors_of_keeping_all :
    let l := (initial.configure { maxMessages := 4, retention := some .all }).logger
    let c := l.capturing none none 1
    let ms : List Message := [⟨.error, none, "first failure"⟩, ⟨.info, none, "ready"⟩]
    Reachable l ∧ (c.run (ms.map Message.call)).logger.backlog.entries = [⟨.info, none, "ready"⟩] ∧
      (c.run (ms.map Message.call)).deliveries = [] ∧ ¬ c.CapturesErrors 1 := by
  intro l c ms
  have he : (c.run (ms.map Message.call)).logger.backlog.entries = [⟨.info, none, "ready"⟩] := by
    decide
  refine ⟨Reachable.initial.request (.call (.configure _)), he, by decide, fun h => ?_⟩
  have hn := he.symm.trans (h ms).1
  exact absurd hn (by decide)

end Logger

end Logbook
