import Logbook.Proofs.Configuration
import Logbook.Proofs.Logger
import Mathlib.Algebra.GroupWithZero.Nat

namespace Logbook

def ConfigFault.notice? : ConfigFault → Option Notice
  | prefixTooLong outlet length => some (.prefixRejected outlet length)
  | allocation _ => none

/-- How many messages have left the backlog with what a notice tells. -/
def Notice.departed : Notice → Nat
  | configured _ discarded => discarded
  | prefixRejected _ _ => 0
  | evicted count _ => count
  | drained _ count _ => count

namespace Logger

def stored (l : Logger) : Call → Nat
  | .log s _ _ => if l.keeps s then 1 else 0
  | _ => 0

variable (l : Logger)

theorem backlog_setPrefix (outlet : Outlet) (text? : Option String) :
    (l.setPrefix outlet text?).logger.backlog = l.backlog := by
  rw [logger_setPrefix]
  cases text?.filter fits with
  | none => rfl
  | some text => cases outlet <;> rfl

theorem notices_setPrefix (outlet : Outlet) (text? : Option String) :
    (l.setPrefix outlet text?).notices =
      (refusal? outlet text?).toList.filterMap ConfigFault.notice? := by
  cases text? with
  | none => rfl
  | some text =>
    by_cases h : text.utf8ByteSize ≤ textLimit <;>
      simp [setPrefix, refusal?, fits, h, Option.filter, ConfigFault.notice?]

theorem notices_configure (s : Settings Sink) :
    (l.configure s).notices =
      s.refused.filterMap ConfigFault.notice? ++ [.configured s.maxMessages l.backlog.size] := by
  simp only [configure, notices_setPrefix, backlog_setPrefix, Settings.refused,
    List.filterMap_append]
  rfl

theorem departed_refused (fs : List ConfigFault) :
    ((fs.filterMap ConfigFault.notice?).map Notice.departed).sum = 0 := by
  induction fs with
  | nil => rfl
  | cons f rest ih =>
    cases f with
    | prefixTooLong outlet length => simpa [ConfigFault.notice?, Notice.departed] using ih
    | allocation requested => exact ih

/-- Where something is told if and only if messages have left, it is told how many. -/
theorem told_cases {α : Type} (gone : List α) (notice : Nat → Notice) :
    (if gone.isEmpty then [] else [notice gone.length]) = [] ∧ gone.length = 0 ∨
      0 < gone.length ∧
        (if gone.isEmpty then [] else [notice gone.length]) = [notice gone.length] := by
  cases gone with
  | nil => exact .inl ⟨rfl, rfl⟩
  | cons a rest => exact .inr ⟨Nat.succ_pos _, rfl⟩

/-- What a call that configures nothing and drains nothing says: nothing if nothing leaves the
backlog, else how many messages were pushed out for a new one or were taken. -/
def Tells (l : Logger) (c : Call) : Prop :=
  let p := l.perform c
  p.logger.backlog.capacity = l.backlog.capacity ∧
    ((p.notices = [] ∧ p.logger.backlog.size = l.backlog.size + l.stored c) ∨
      (∃ n, 0 < n ∧ p.notices = [.evicted n p.logger.backlog.capacity] ∧
        n + p.logger.backlog.size = l.backlog.size + l.stored c) ∨
      ∃ removal n, 0 < n ∧ p.notices = [.drained removal n p.logger.backlog.size] ∧
        n + p.logger.backlog.size = l.backlog.size + l.stored c)

theorem notices_log_of_keeps {l : Logger} {s : Severity} (hk : l.keeps s = true)
    (origin : Option String) (message : String) :
    let pushed := l.backlog.push (l.entryOf s origin message)
    (l.log s origin message).notices =
      if pushed.1.isEmpty then [] else [.evicted pushed.1.length pushed.2.capacity] := by
  simp [log, hk, entryOf]

theorem notices_log_of_not_keeps {l : Logger} {s : Severity} (hk : l.keeps s = false)
    (origin : Option String) (message : String) : (l.log s origin message).notices = [] := by
  simp [log, hk]

theorem tells_log (s : Severity) (origin : Option String) (message : String) :
    l.Tells (.log s origin message) := by
  by_cases hk : l.keeps s = true
  · let e := l.entryOf s origin message
    have hl : (l.perform (.log s origin message)).logger.backlog = (l.backlog.push e).2 :=
      congrArg Logger.backlog (log_of_keeps hk origin message).1
    have hn : (l.perform (.log s origin message)).notices =
        if (l.backlog.push e).1.isEmpty then []
        else [.evicted (l.backlog.push e).1.length (l.backlog.push e).2.capacity] :=
      notices_log_of_keeps hk origin message
    have hs : l.stored (.log s origin message) = 1 := if_pos hk
    have ha := congrArg List.length (Backlog.push_append (capacity_ne_zero_of_keeps hk) e)
    rw [List.length_append, List.length_append, List.length_singleton] at ha
    rw [Tells, hl, hn, hs]
    refine ⟨Backlog.capacity_push _ _, ?_⟩
    obtain ⟨ht, hz⟩ | ⟨hp, ht⟩ := told_cases (l.backlog.push e).1
      (Notice.evicted · (l.backlog.push e).2.capacity)
    · refine .inl ⟨ht, ?_⟩
      simp only [Backlog.size]
      omega
    · exact .inr (.inl ⟨_, hp, ht, ha⟩)
  · have hl : (l.perform (.log s origin message)).logger = l :=
      (log_of_not_keeps (Bool.eq_false_iff.mpr hk) origin message).1
    have hn : (l.perform (.log s origin message)).notices = [] :=
      notices_log_of_not_keeps (Bool.eq_false_iff.mpr hk) origin message
    have hs : l.stored (.log s origin message) = 0 := if_neg hk
    rw [Tells, hl, hn, hs]
    exact ⟨rfl, .inl ⟨rfl, rfl⟩⟩

theorem tells_emit (count : Nat) (context : Bool) : l.Tells (.emit count context) := by
  have ha := congrArg List.length (Backlog.takeOldest_append l.backlog count)
  rw [List.length_append] at ha
  refine ⟨rfl, ?_⟩
  obtain ⟨ht, hz⟩ | ⟨hp, ht⟩ := told_cases (l.backlog.takeOldest count).1
    (Notice.drained .emit · (l.backlog.takeOldest count).2.size)
  · refine .inl ⟨ht, ?_⟩
    show (l.backlog.takeOldest count).2.entries.length = l.backlog.entries.length
    omega
  · exact .inr (.inr ⟨.emit, _, hp, ht, ha⟩)

theorem tells_discard : l.Tells .discard := by
  refine ⟨rfl, ?_⟩
  obtain ⟨ht, hz⟩ | ⟨hp, ht⟩ := told_cases l.backlog.entries (Notice.drained .free · 0)
  · exact .inl ⟨ht, hz.symm⟩
  · exact .inr (.inr ⟨.free, _, hp, ht, rfl⟩)

theorem tells_pop : l.Tells .pop := by
  have hp : ∀ p, l.pop = p →
      (l.perform .pop).logger = p.logger ∧ (l.perform .pop).notices = p.notices := by
    rintro p rfl
    exact ⟨rfl, rfl⟩
  rcases List.eq_nil_or_concat' l.backlog.entries with h | ⟨es, e, h⟩
  · obtain ⟨hl, hn⟩ := hp _ (pop_of_nil l h)
    rw [Tells, hl, hn]
    exact ⟨rfl, .inl ⟨rfl, rfl⟩⟩
  · obtain ⟨hl, hn⟩ := hp _ (pop_of_append l h)
    rw [Tells, hl, hn]
    refine ⟨rfl, .inr (.inr ⟨.pop, 1, Nat.one_pos, rfl, ?_⟩)⟩
    show 1 + es.length = l.backlog.entries.length + 0
    rw [h, List.length_append, List.length_singleton]
    omega

theorem tells_popInto (buffer : Option (List UInt8)) (context : Bool) :
    l.Tells (.popInto buffer context) := by
  match buffer with
  | none => exact ⟨rfl, .inl ⟨rfl, rfl⟩⟩
  | some [] => exact ⟨rfl, .inl ⟨rfl, rfl⟩⟩
  | some (_ :: _) => exact l.tells_pop

theorem notices_cases {c : Call} (hc : c ≠ .drain) :
    (∃ s, c.settings? = some s ∧ (l.perform c).logger.backlog = .empty s.maxMessages ∧
        (l.perform c).notices =
          s.refused.filterMap ConfigFault.notice? ++ [.configured s.maxMessages l.backlog.size]) ∨
      c.settings? = none ∧ l.Tells c := by
  cases c with
  | log s origin message => exact .inr ⟨rfl, l.tells_log s origin message⟩
  | emit count context => exact .inr ⟨rfl, l.tells_emit count context⟩
  | pop => exact .inr ⟨rfl, l.tells_pop⟩
  | popInto buffer context => exact .inr ⟨rfl, l.tells_popInto buffer context⟩
  | drain => exact absurd rfl hc
  | discard => exact .inr ⟨rfl, l.tells_discard⟩
  | configure s =>
    have hb := congrArg Logger.backlog (l.logger_configure s)
    exact .inl ⟨s, rfl, hb, l.notices_configure s⟩
  | start s =>
    have hb := congrArg Logger.backlog (l.logger_start s)
    exact .inl ⟨s.unbuffered, rfl, hb, l.notices_configure s.unbuffered⟩
  | count | capacity => exact .inr ⟨rfl, rfl, .inl ⟨rfl, rfl⟩⟩

end Logger

end Logbook
