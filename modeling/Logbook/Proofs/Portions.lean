import Logbook.Proofs.Logger
import Mathlib.Algebra.GroupWithZero.Nat

namespace Logbook.Logger

variable (l : Logger)

theorem run_emits (context : Bool) {counts : List Nat} (h : ∀ n ∈ counts, n ≠ 0) :
    let p := l.run (counts.map (Call.emit · context))
    (∃ ns : List Nat, p.value = ns.map .number ∧ ns.sum = min counts.sum l.backlog.size) ∧
      p.deliveries = (l.backlog.entries.take counts.sum).map (l.emission context) ∧
      p.logger = l.withEntries (l.backlog.entries.drop counts.sum) := by
  induction counts generalizing l with
  | nil => exact ⟨⟨[], rfl, (Nat.zero_min _).symm⟩, rfl, rfl⟩
  | cons n rest ih =>
    obtain ⟨hn, hr⟩ := List.forall_mem_cons.mp h
    obtain ⟨hv, hd, hl⟩ := l.emit_of_ne hn context
    obtain ⟨⟨ns, hns, hsum⟩, hds, hls⟩ := ih (l.withEntries (l.backlog.entries.drop n)) hr
    rw [entries_withEntries] at hds hls
    rw [Backlog.size, entries_withEntries, List.length_drop] at hsum
    rw [← hl] at hns hds hls
    intro p
    refine ⟨⟨(l.emit n context).value :: ns, congrArg (Reply.number _ :: ·) hns, ?_⟩, ?_, ?_⟩
    · rw [List.sum_cons, List.sum_cons, hv, hsum, Backlog.size]
      omega
    · have hp : p.deliveries = (l.emit n context).deliveries ++ _ :=
        congrArg ((l.emit n context).deliveries ++ ·) hds
      rw [hp, hd, hl, List.sum_cons, List.take_add, List.map_append]
      rfl
    · have hp : p.logger = _ := hls
      rw [hp, hl, List.sum_cons, withEntries_withEntries, List.drop_drop]

theorem value_emit_eq_zero_iff (count : Nat) (context : Bool) :
    (l.emit count context).value = 0 ↔ l.backlog.entries = [] := by
  rw [← List.length_eq_zero_iff]
  by_cases hc : count = 0
  · rw [hc, (l.emit_all context).1]
  · rw [(l.emit_of_ne hc context).1, Backlog.size]
    omega

theorem size_emit_lt {l : Logger} {count : Nat} {context : Bool} (h : (l.emit count context).value ≠ 0) :
    (l.emit count context).logger.backlog.size < l.backlog.size := by
  have hs := l.value_emit_add_size count context
  omega

/-- Emits again and again, until nothing is emitted. The answer has the numbers of all emissions, the
last one included. -/
def emitUntilNone (l : Logger) (count : Nat) (context : Bool) : Performance (List Nat) :=
  let first := l.emit count context
  if _h : first.value = 0 then first.map fun n => [n]
  else (first.map fun n => [n]).append (emitUntilNone first.logger count context)
termination_by l.backlog.size
decreasing_by exact size_emit_lt _h

theorem turns_succ {size count : Nat} (hs : size ≠ 0) (hc : count ≠ 0) :
    (size - count + count - 1) / count + 1 = (size + count - 1) / count := by
  have hd : (size - count + count - 1) / count = (size - 1) / count := by
    by_cases hl : count ≤ size
    · rw [Nat.sub_add_cancel hl]
    · rw [Nat.div_eq_of_lt (by omega), Nat.div_eq_of_lt (by omega)]
  have ha : size + count - 1 = size - 1 + count := by omega
  rw [hd, ha, Nat.add_div_right _ (Nat.pos_of_ne_zero hc)]

theorem emitUntilNone_eq {count : Nat} (hc : count ≠ 0) (context : Bool) :
    let p := l.emitUntilNone count context
    (∃ ns : List Nat, p.value = ns ++ [0] ∧ (∀ n ∈ ns, n ≠ 0) ∧ ns.sum = l.backlog.size ∧
        ns.length = (l.backlog.size + count - 1) / count) ∧
      p.deliveries = l.backlog.entries.map (l.emission context) ∧
      p.logger = l.withEntries [] := by
  -- on the turns, the last of which emits nothing
  fun_induction emitUntilNone l count context with
  | case1 l first h =>
    obtain ⟨-, hd, hl⟩ : first.value = _ ∧ first.deliveries = _ ∧ first.logger = _ :=
      l.emit_of_ne hc context
    have hn : l.backlog.entries = [] := (l.value_emit_eq_zero_iff count context).mp h
    have hs : l.backlog.size = 0 := congrArg List.length hn
    have ht : (l.backlog.size + count - 1) / count = 0 := Nat.div_eq_of_lt (by omega)
    rw [hn, List.take_nil] at hd
    rw [hn, List.drop_nil] at hl
    refine ⟨⟨[], congrArg (fun n => [n]) h, nofun, hs.symm, ht.symm⟩, ?_, hl⟩
    rw [hn]
    exact hd
  | case2 l first h ih =>
    obtain ⟨hv, hd, hl⟩ : first.value = _ ∧ first.deliveries = _ ∧ first.logger = _ :=
      l.emit_of_ne hc context
    have hs : first.value + first.logger.backlog.size = l.backlog.size :=
      l.value_emit_add_size count context
    obtain ⟨⟨ns, hns, hz, hsum, hlen⟩, hds, hls⟩ := ih
    have hr : first.logger.backlog.size = l.backlog.size - count := by omega
    refine ⟨⟨first.value :: ns, ?_, List.forall_mem_cons.mpr ⟨h, hz⟩, ?_, ?_⟩, ?_, ?_⟩
    · exact congrArg (first.value :: ·) hns
    · rw [List.sum_cons, hsum, hs]
    · rw [List.length_cons, hlen, hr]
      exact turns_succ (by omega) hc
    · refine (congrArg (first.deliveries ++ ·) hds).trans ?_
      rw [hd, hl]
      show _ ++ (l.backlog.entries.drop count).map (l.emission context) = _
      rw [← List.map_append, List.take_append_drop]
    · refine hls.trans ?_
      rw [hl, withEntries_withEntries]

/-- An emission and a pop, in either order, deliver, answer and leave the same. -/
def EmitPopCommute (l : Logger) (count : Nat) (context : Bool) : Prop :=
  let p := l.run [.emit count context, .pop]
  let q := l.run [.pop, .emit count context]
  p.deliveries = q.deliveries ∧ p.value = q.value.reverse ∧ p.logger = q.logger

theorem emitPopCommute_iff (count : Nat) (context : Bool) :
    l.EmitPopCommute count context ↔
      (l.emit count context).deliveries = (l.pop.logger.emit count context).deliveries ∧
        ((l.emit count context).value = (l.pop.logger.emit count context).value ∧
          (l.emit count context).logger.pop.value = l.pop.value) ∧
        (l.emit count context).logger.pop.logger = (l.pop.logger.emit count context).logger := by
  simp [EmitPopCommute, run, perform, Performance.map, deliveries_pop]

theorem emitPopCommute_of_nil (h : l.backlog.entries = []) (count : Nat) (context : Bool) :
    l.EmitPopCommute count context := by
  have hp : l.pop = { value := none, logger := l } := pop_of_nil l h
  have hl : (l.emit count context).logger = l := by
    have he : (l.backlog.takeOldest count).2.entries = l.backlog.entries := by
      rw [Backlog.entries_takeOldest, h, List.drop_nil, ite_self]
    exact congrArg l.withEntries he
  rw [emitPopCommute_iff, hl, hp]
  exact ⟨rfl, ⟨rfl, rfl⟩, hl.symm⟩

theorem emitPopCommute_of_lt {count : Nat} (hc : count ≠ 0) (hs : count < l.backlog.size)
    (context : Bool) : l.EmitPopCommute count context := by
  obtain hn | ⟨es, e, he⟩ := List.eq_nil_or_concat' l.backlog.entries
  · exact l.emitPopCommute_of_nil hn count context
  · have hle : count ≤ es.length := by
      rw [Backlog.size, he, List.length_append, List.length_singleton] at hs
      omega
    obtain ⟨hv, hd, hl⟩ := l.emit_of_ne hc context
    obtain ⟨hv', hd', hl'⟩ := (l.withEntries es).emit_of_ne hc context
    rw [he, List.take_append_of_le_length hle] at hd
    rw [he, List.drop_append_of_le_length hle] at hl
    have hr : (l.emit count context).logger.backlog.entries = es.drop count ++ [e] := by rw [hl]; rfl
    rw [emitPopCommute_iff, pop_of_append l he, pop_of_append _ hr]
    refine ⟨hd.trans hd'.symm, ⟨?_, rfl⟩, ?_⟩
    · rw [hv, hv', Nat.min_eq_left hs.le]
      exact (Nat.min_eq_left hle).symm
    · rw [hl, hl']
      rfl

theorem lt_of_emitPopCommute {count : Nat} {context : Bool} (h : l.EmitPopCommute count context)
    (hn : l.backlog.entries ≠ []) : count ≠ 0 ∧ count < l.backlog.size := by
  have hv := ((l.emitPopCommute_iff count context).mp h).2.1.2
  rw [value_pop, value_pop, List.getLast?_eq_some_getLast hn] at hv
  have he := List.ne_nil_of_mem (List.mem_of_getLast? hv)
  by_cases hc : count = 0
  · rw [hc, (l.emit_all context).2.2] at he
    exact absurd rfl he
  · rw [(l.emit_of_ne hc context).2.2, entries_withEntries] at he
    exact ⟨hc, by simpa [Backlog.size] using he⟩

/-- Portions emit to the same sinks in the same order what one emission of their sum emits, they count
as many and leave the same. So does one portion size again and again against an emission of all: it
comes to an end, as an emission is empty exactly if nothing waits. And a portion may be emitted before
the newest message is popped or after it, exactly if that is not among the emitted ones. -/
theorem emission_in_portions (context : Bool) :
    (∀ counts : List Nat, counts ≠ [] → (∀ n ∈ counts, n ≠ 0) →
        let p := l.run (counts.map (Call.emit · context))
        let q := l.emit counts.sum context
        p.deliveries = q.deliveries ∧ p.logger = q.logger ∧
          ∃ ns : List Nat, p.value = ns.map .number ∧ ns.sum = q.value) ∧
      (∀ count, count ≠ 0 →
        let p := l.emitUntilNone count context
        let q := l.emit 0 context
        p.deliveries = q.deliveries ∧ p.logger = q.logger ∧
          ∃ ns : List Nat, p.value = ns ++ [0] ∧ (∀ n ∈ ns, n ≠ 0) ∧ ns.sum = q.value ∧
            ns.length = (l.backlog.size + count - 1) / count) ∧
      (∀ count, (l.emit count context).value = 0 ↔ l.backlog.entries = []) ∧
      ∀ count, l.EmitPopCommute count context ↔
        l.backlog.entries = [] ∨ (count ≠ 0 ∧ count < l.backlog.size) := by
  refine ⟨fun counts hne hcs => ?_, fun count hc => ?_,
    fun count => l.value_emit_eq_zero_iff count context, fun count => ⟨fun h => ?_, fun h => ?_⟩⟩
  · have hz : counts.sum ≠ 0 := by
      obtain ⟨n, hn⟩ := List.exists_mem_of_ne_nil counts hne
      apply Nat.ne_of_gt
      exact List.sum_pos_iff_exists_pos_nat.mpr ⟨n, hn, Nat.pos_of_ne_zero (hcs n hn)⟩
    obtain ⟨⟨ns, hns, hsum⟩, hd, hl⟩ := l.run_emits context hcs
    obtain ⟨hv, hd', hl'⟩ := l.emit_of_ne hz context
    exact ⟨hd.trans hd'.symm, hl.trans hl'.symm, ns, hns, hsum.trans hv.symm⟩
  · obtain ⟨⟨ns, hns, hnz, hsum, hlen⟩, hd, hl⟩ := emitUntilNone_eq (l := l) hc context
    obtain ⟨hv, hd', hl'⟩ := l.emit_all context
    exact ⟨hd.trans hd'.symm, hl.trans hl'.symm, ns, hns, hnz, hsum.trans hv.symm, hlen⟩
  · exact or_iff_not_imp_left.mpr (l.lt_of_emitPopCommute h)
  · obtain hn | ⟨hc, hs⟩ := h
    · exact l.emitPopCommute_of_nil hn count context
    · exact l.emitPopCommute_of_lt hc hs context

theorem emission_in_portions_of_three :
    let waiting : List Entry :=
      [⟨.error, some "reader", "Error: first"⟩, ⟨.info, none, "ready"⟩,
        ⟨.error, none, "Error: second"⟩]
    let l : Logger :=
      { initial with
        diagnosticSink := .device 0
        retention := .all
        backlog := ⟨3, waiting⟩ }
    let ds : List Delivery :=
      [⟨.device 0, "reader() Error: first"⟩, ⟨.output .terminated, "ready"⟩,
        ⟨.device 0, "Error: second"⟩]
    let counts := [1, 4]
    counts ≠ [] ∧ (∀ n ∈ counts, n ≠ 0) ∧
      (l.run (counts.map (Call.emit · true))).deliveries = ds ∧ (l.emit 5 true).deliveries = ds ∧
      (l.emitUntilNone 2 true).deliveries = ds ∧
      (∃ ns : List Nat, (l.emitUntilNone 2 true).value = ns ++ [0] ∧ ns.length = 2) ∧
      l.EmitPopCommute 2 true ∧ ¬l.EmitPopCommute 3 true ∧ ¬l.EmitPopCommute 0 true := by
  intro waiting l ds counts
  have hne : counts ≠ [] := List.cons_ne_nil _ _
  have hcs : ∀ n ∈ counts, n ≠ 0 := by decide
  obtain ⟨hp, hu, -, hc⟩ := l.emission_in_portions true
  obtain ⟨hud, -, ns, hns, -, -, hlen⟩ := hu 2 (by decide)
  refine ⟨hne, hcs, (hp counts hne hcs).1.trans (by decide), by decide, hud.trans (by decide),
    ⟨ns, hns, hlen.trans (by decide)⟩, (hc 2).mpr (by decide), fun h => ?_, fun h => ?_⟩
  · exact absurd ((hc 3).mp h) (by decide)
  · exact absurd ((hc 0).mp h) (by decide)

end Logbook.Logger
