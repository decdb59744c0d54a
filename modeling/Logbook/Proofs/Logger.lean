import Logbook.Logger.Call
import Logbook.Proofs.Backlog

namespace Logbook

theorem Entry.render_false (e : Entry) : e.render false = e.text := by
  cases h : e.origin <;> simp only [render, h]

def Performance.append {α : Type} (p q : Performance (List α)) : Performance (List α) where
  value := p.value ++ q.value
  logger := q.logger
  deliveries := p.deliveries ++ q.deliveries
  notices := p.notices ++ q.notices

namespace Logger

def withEntries (l : Logger) (es : List Entry) : Logger :=
  { l with backlog := { l.backlog with entries := es } }

@[simp]
theorem withEntries_entries (l : Logger) : l.withEntries l.backlog.entries = l := rfl

@[simp]
theorem withEntries_withEntries (l : Logger) (es fs : List Entry) :
    (l.withEntries es).withEntries fs = l.withEntries fs := rfl

@[simp]
theorem entries_withEntries (l : Logger) (es : List Entry) :
    (l.withEntries es).backlog.entries = es := rfl

@[simp]
theorem capacity_withEntries (l : Logger) (es : List Entry) :
    (l.withEntries es).backlog.capacity = l.backlog.capacity := rfl

theorem capacity_ne_zero_of_keeps {l : Logger} {s : Severity} (h : l.keeps s = true) :
    l.backlog.capacity ≠ 0 := by
  have he : 0 < l.backlog.capacity ∧ l.retention.keeps s = true := by
    simpa [keeps, Backlog.isEnabled] using h
  omega

def entryOf (l : Logger) (s : Severity) (origin : Option String) (message : String) : Entry :=
  ⟨s, origin, l.format s message⟩

variable {l : Logger} {s : Severity}

theorem log_of_keeps (h : l.keeps s = true) (origin : Option String) (message : String) :
    (l.log s origin message).logger =
        { l with backlog := (l.backlog.push (l.entryOf s origin message)).2 } ∧
      (l.log s origin message).deliveries = [] := by
  simp [log, h, entryOf]

theorem logger_log_of_keeps (h : l.keeps s = true) (origin : Option String) (message : String) :
    (l.log s origin message).logger =
      l.withEntries ((l.backlog.entries ++ [l.entryOf s origin message]).rtake
        l.backlog.capacity) := by
  rw [(log_of_keeps h origin message).1, Backlog.push_snd (capacity_ne_zero_of_keeps h)]
  rfl

theorem log_of_not_keeps (h : l.keeps s = false) (origin : Option String) (message : String) :
    (l.log s origin message).logger = l ∧
      (l.log s origin message).deliveries =
        [l.emission false (l.entryOf s origin message)] := by
  simp [log, h, entryOf, emission, Entry.render_false]

variable (l)

theorem emit_all (context : Bool) :
    (l.emit 0 context).value = l.backlog.entries.length ∧
      (l.emit 0 context).deliveries = l.backlog.entries.map (l.emission context) ∧
      (l.emit 0 context).logger = l.withEntries [] := by
  simp [emit, Backlog.takeOldest, Backlog.selected, Backlog.size, withEntries]

theorem emit_of_ne {count : Nat} (h : count ≠ 0) (context : Bool) :
    (l.emit count context).value = min count l.backlog.size ∧
      (l.emit count context).deliveries =
        (l.backlog.entries.take count).map (l.emission context) ∧
      (l.emit count context).logger = l.withEntries (l.backlog.entries.drop count) := by
  have hs : l.backlog.selected count = min count l.backlog.entries.length := if_neg h
  have ht : l.backlog.entries.take (min count l.backlog.entries.length) =
      l.backlog.entries.take count := List.take_eq_take_min.symm
  refine ⟨?_, ?_, ?_⟩
  · show (l.backlog.entries.take _).length = _
    rw [hs, ht, List.length_take, Backlog.size]
  · show (l.backlog.entries.take _).map _ = _
    rw [hs, ht]
  · show l.withEntries (l.backlog.takeOldest count).2.entries = _
    rw [Backlog.entries_takeOldest, if_neg h]

theorem value_emit_add_size (count : Nat) (context : Bool) :
    (l.emit count context).value + (l.emit count context).logger.backlog.size = l.backlog.size := by
  have h := congrArg List.length (Backlog.takeOldest_append l.backlog count)
  rwa [List.length_append] at h

theorem pop_of_nil (h : l.backlog.entries = []) :
    l.pop = { value := none, logger := l } := by
  have hp : l.backlog.popNewest = none := (Backlog.popNewest_eq_none_iff _).mpr h
  simp only [pop, hp]

theorem pop_of_append {es : List Entry} {e : Entry} (h : l.backlog.entries = es ++ [e]) :
    l.pop =
      { value := some e
        logger := l.withEntries es
        notices := [.drained .pop 1 es.length] } := by
  have hp : l.backlog.popNewest = some (e, { l.backlog with entries := es }) := by
    simp [Backlog.popNewest, h]
  simp only [pop, hp]
  rfl

theorem logger_pop : l.pop.logger = l.withEntries l.backlog.entries.dropLast := by
  rcases List.eq_nil_or_concat' l.backlog.entries with h | ⟨es, e, h⟩
  · rw [pop_of_nil l h, h, List.dropLast_nil, ← h, withEntries_entries]
  · rw [pop_of_append l h, h, List.dropLast_concat]

theorem value_pop : l.pop.value = l.backlog.entries.getLast? := by
  rcases List.eq_nil_or_concat' l.backlog.entries with h | ⟨es, e, h⟩
  · rw [pop_of_nil l h, h, List.getLast?_nil]
  · rw [pop_of_append l h, h, List.getLast?_concat]

theorem deliveries_pop : l.pop.deliveries = [] := by
  rcases List.eq_nil_or_concat' l.backlog.entries with h | ⟨es, e, h⟩
  · rw [pop_of_nil l h]
  · rw [pop_of_append l h]

theorem deliveries_drainUpTo (most : Nat) : (l.drainUpTo most).deliveries = [] := by
  cases most with
  | zero => rfl
  | succ most =>
    rw [drainUpTo]
    split <;> rfl

theorem drainUpTo_of_append {es : List Entry} {e : Entry} (h : l.backlog.entries = es ++ [e]) :
    l.drainUpTo (es ++ [e]).length =
      (l.pop.map fun _ => [Text.withoutFinalNewlines e.text]).append
        ((l.withEntries es).drainUpTo es.length) := by
  have hd := (l.withEntries es).deliveries_drainUpTo es.length
  rw [List.length_append, List.length_singleton, drainUpTo, pop_of_append l h, Performance.append, hd]
  rfl

/-- Popping on and on takes the messages from the end. The recursion is over what is there before. -/
theorem drainUpTo_eq (es : List Entry) (h : l.backlog.entries = es) :
    (l.drainUpTo es.length).value = es.reverse.map (fun e => Text.withoutFinalNewlines e.text) ∧
      (l.drainUpTo es.length).logger = l.withEntries [] := by
  induction es using List.reverseRecOn generalizing l with
  | nil =>
    refine ⟨rfl, ?_⟩
    rw [List.length_nil, drainUpTo, ← h, withEntries_entries]
  | append_singleton es e ih =>
    obtain ⟨hv, hl⟩ := ih (l.withEntries es) rfl
    rw [l.drainUpTo_of_append h, List.reverse_concat]
    exact ⟨congrArg (_ :: ·) hv, hl⟩

theorem value_drain :
    l.drain.value =
      l.backlog.entries.reverse.map (fun e => Text.withoutFinalNewlines e.text) :=
  (drainUpTo_eq l _ rfl).1

theorem logger_drain : l.drain.logger = l.withEntries [] :=
  (drainUpTo_eq l _ rfl).2

theorem deliveries_drain : l.drain.deliveries = [] :=
  l.deliveries_drainUpTo _

theorem logger_run_cons (c : Call) (rest : List Call) :
    (l.run (c :: rest)).logger = ((l.perform c).logger.run rest).logger := rfl

theorem deliveries_run_cons (c : Call) (rest : List Call) :
    (l.run (c :: rest)).deliveries =
      (l.perform c).deliveries ++ ((l.perform c).logger.run rest).deliveries := rfl

theorem notices_run_cons (c : Call) (rest : List Call) :
    (l.run (c :: rest)).notices =
      (l.perform c).notices ++ ((l.perform c).logger.run rest).notices := rfl

theorem run_cons (c : Call) (rest : List Call) :
    l.run (c :: rest) =
      ((l.perform c).map fun reply => [reply]).append ((l.perform c).logger.run rest) := rfl

theorem run_append (cs ds : List Call) :
    l.run (cs ++ ds) = (l.run cs).append ((l.run cs).logger.run ds) := by
  induction cs generalizing l with
  | nil => rfl
  | cons c rest ih =>
    rw [List.cons_append, run_cons, ih, run_cons]
    simp only [Performance.append, List.append_assoc]

theorem deliveries_popInto (buffer : Option (List UInt8)) (context : Bool) :
    (l.popInto buffer context).deliveries = [] :=
  match buffer with
  | none => rfl
  | some [] => rfl
  | some (_ :: _) => rfl

end Logger

end Logbook
