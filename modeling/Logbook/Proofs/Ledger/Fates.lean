import Logbook.Proofs.Ledger.Conservation

namespace Logbook

def Numbered.Before (m n : Numbered) : Prop := m.number < n.number

namespace Ledger

variable (k : Ledger)

theorem entries_map : k.waiting.entries.map Numbered.entry = k.logger.backlog.entries :=
  congrArg Backlog.entries k.waiting_map

/-- What a call answers and hands over tells of the messages that leave with it. A configuration hands
over reports alone. -/
def Shows (c : Call) : Prop :=
  let p := k.logger.perform c
  let gone := (k.part (.call c)).gone.map fun d => d.message.entry
  match c with
  | .log s _ _ => p.deliveries = if k.logger.keeps s then [] else gone.map (k.logger.emission false)
  | .emit _ context =>
    p.value = .number gone.length ∧ p.deliveries = gone.map (k.logger.emission context)
  | .pop => p.value = .popped gone.head? ∧ p.deliveries = []
  | .popInto none _ => p.value = .copied (.error .missing) ∧ p.deliveries = []
  | .popInto (some []) _ => p.value = .copied (.error .empty) ∧ p.deliveries = []
  | .popInto (some bytes) context =>
    p.value = .copied (.ok (gone.head?.elim ⟨0, bytes⟩ fun e =>
      Logger.copyInto bytes (e.render context))) ∧ p.deliveries = []
  | .drain =>
    p.value = .drained (gone.map fun e => Text.withoutFinalNewlines e.text) ∧ p.deliveries = []
  | .discard => p.value = .number gone.length ∧ p.deliveries = []
  | .configure s => p.deliveries = s.refused.map (k.logger.withSinks s).report
  | .start s => p.deliveries = s.refused.map (k.logger.withSinks s).report
  | .count => p.deliveries = []
  | .capacity => p.deliveries = []

/-- A message passes with its own call. Any other fate comes later. -/
def Timely (c : Call) : Prop :=
  ∀ d ∈ (k.part (.call c)).gone, d.fate.comesFrom c = true ∧
    if d.fate = .passed then d.message.number = k.next else d.message.number < k.next

/-- Each popped message is the last of those that wait when it leaves. -/
def PopsNewest (c : Call) : Prop :=
  Fate.popped.comesFrom c = true →
    let gone := (k.part (.call c)).gone.map Departure.message
    let left := (k.perform (.call c)).waiting.entries
    k.waiting.entries = left ++ gone.reverse ∧ (left ++ gone.reverse).Pairwise Numbered.Before

theorem entry_map (fate : Fate) (ms : List Numbered) :
    (ms.map fun m => (⟨m, fate⟩ : Departure)).map (fun d => d.message.entry) =
      ms.map Numbered.entry := by
  simp [Function.comp_def]

theorem popOne_entry : (k.popOne.1.map Numbered.entry).head? = k.logger.pop.value := by
  rw [Logger.value_pop, ← k.entries_map, popOne, List.getLast?_map]
  rcases List.eq_nil_or_concat' k.waiting.entries with h | ⟨ms, m, h⟩
  · simp [Backlog.popNewest, h]
  · simp [Backlog.popNewest, h]

theorem shows (c : Call) : k.Shows c := by
  cases c with
  | log s origin message =>
    by_cases h : k.logger.keeps s = true
    · simp [Shows, h, Logger.perform, Performance.map, Logger.log_of_keeps h]
    · simp [Shows, h, Logger.perform, Performance.map, Logger.log_of_not_keeps, part, Parting.of]
  | emit count context =>
    have hm := Backlog.map_takeOldest Numbered.entry k.waiting count
    rw [k.waiting_map] at hm
    simp only [Shows, part, Parting.of, entry_map, Logger.perform, Performance.map, Logger.emit, hm]
    exact ⟨rfl, rfl⟩
  | pop =>
    simp only [Shows, part, Parting.of, entry_map, popOne_entry]
    exact ⟨rfl, Logger.deliveries_pop _⟩
  | popInto buffer context =>
    obtain - | (- | ⟨b, bytes⟩) := buffer
    · exact ⟨rfl, rfl⟩
    · exact ⟨rfl, rfl⟩
    · simp only [Shows, part, Parting.of, entry_map, popOne_entry]
      refine ⟨?_, rfl⟩
      simp only [Logger.perform, Performance.map, Logger.popInto]
      cases k.logger.pop.value <;> rfl
  | drain =>
    simp only [Shows, part, Parting.of, entry_map, List.map_reverse, k.entries_map]
    refine ⟨?_, Logger.deliveries_drain _⟩
    rw [← List.map_reverse, ← Logger.value_drain]
    rfl
  | discard =>
    simp only [Shows, part, Parting.of, entry_map, Backlog.clear, k.entries_map]
    exact ⟨rfl, rfl⟩
  | configure s => exact Logger.deliveries_configure _ s
  | start s => exact Logger.deliveries_start _ s
  | count => rfl
  | capacity => rfl

theorem fate_of_mem_map {fate : Fate} {ms : List Numbered} {d : Departure}
    (h : d ∈ ms.map fun m => (⟨m, fate⟩ : Departure)) : d.fate = fate := by
  obtain ⟨m, -, rfl⟩ := List.mem_map.mp h
  rfl

theorem comesFrom_of_mem {c : Call} {d : Departure} (h : d ∈ (k.part (.call c)).gone) :
    d.fate.comesFrom c = true := by
  cases c with
  | log s origin message =>
    by_cases hs : k.logger.keeps s = true
    · simp only [part, hs, Parting.of, if_true] at h
      rw [fate_of_mem_map h]
      rfl
    · simp only [part, hs, Parting.of, if_false, Bool.false_eq_true] at h
      rw [fate_of_mem_map h]
      rfl
  | emit count context | pop | drain | discard | configure s | start s =>
    rw [fate_of_mem_map h]
    rfl
  | popInto buffer context =>
    obtain - | (- | ⟨b, bytes⟩) := buffer
    · exact absurd h List.not_mem_nil
    · exact absurd h List.not_mem_nil
    · rw [fate_of_mem_map h]
      rfl
  | count | capacity => exact absurd h List.not_mem_nil

theorem mem_of_mem_gone {r : Request} {d : Departure} (h : d ∈ (k.part r).gone) :
    if d.fate = .passed then d.message ∈ k.logged r else d.message ∈ k.waiting.entries := by
  obtain ⟨fate, ms, hg, hc⟩ := k.part_cases r
  rw [hg] at h
  have hf : d.fate = fate := fate_of_mem_map h
  have hm : d.message ∈ ms := by
    rw [← message_map fate ms]
    exact List.mem_map_of_mem h
  rw [hf]
  obtain ⟨hn, hp, -⟩ | ⟨rfl, -, he⟩ | ⟨rfl, hl, -⟩ := hc
  · rw [if_neg hn]
    exact hp.subset hm
  · rw [← he]
    exact List.mem_append_right _ (List.mem_reverse.mpr hm)
  · rw [hl]
    exact hm

theorem logger_run (calls : List Call) :
    (k.run (calls.map .call)).logger = (k.logger.run calls).logger := by
  induction calls generalizing k with
  | nil => rfl
  | cons c rest ih => exact ih (k.perform (.call c))

theorem messages_eq_mapIdx (calls : List Call) :
    k.messages (calls.map .call) =
      (k.logger.messages calls).mapIdx fun i e => ⟨k.next + i, e⟩ := by
  induction calls generalizing k with
  | nil => rfl
  | cons c rest ih =>
    rw [List.map_cons, messages, ih]
    cases c with
    | log s origin message =>
      rw [Logger.messages, List.mapIdx_cons]
      simp only [perform, logged, Request.perform, List.length_singleton, List.singleton_append,
        Nat.add_zero, Nat.add_assoc, Nat.add_comm 1]
    | _ => rfl

theorem next_run (rs : List Request) : (k.run rs).next = k.next + (k.messages rs).length := by
  induction rs generalizing k with
  | nil => rfl
  | cons r rest ih =>
    rw [run, ih, messages, List.length_append, ← Nat.add_assoc]
    rfl

/-- The messages that wait are in order and older than any that comes. -/
def Ordered : Prop :=
  k.waiting.entries.Pairwise Numbered.Before ∧ ∀ m ∈ k.waiting.entries, m.number < k.next

theorem Ordered.timely {k : Ledger} (h : k.Ordered) (c : Call) : k.Timely c := by
  intro d hd
  refine ⟨k.comesFrom_of_mem hd, ?_⟩
  have hm := k.mem_of_mem_gone hd
  by_cases hf : d.fate = .passed
  · rw [if_pos hf] at hm ⊢
    cases c with
    | log s origin message => rw [List.mem_singleton.mp hm]
    | _ => exact absurd hm List.not_mem_nil
  · rw [if_neg hf] at hm ⊢
    exact h.2 _ hm

theorem Ordered.popsNewest {k : Ledger} (h : k.Ordered) (c : Call) : k.PopsNewest c := by
  intro hc
  obtain ⟨ms, hg, hs⟩ := k.part_of_popped hc
  have he : (k.part (.call c)).stays.entries ++
      ((k.part (.call c)).gone.map Departure.message).reverse = k.waiting.entries := by
    rw [hg, message_map, hs]
  refine ⟨he.symm, ?_⟩
  have ho := h.1
  rwa [← he] at ho

/-- What waits when the ledger is opened and what a run logs, in this order. -/
def account (l : Logger) (calls : List Call) : List Numbered :=
  (l.backlog.entries ++ l.messages calls).mapIdx Numbered.mk

theorem account_eq (l : Logger) (calls : List Call) :
    (opened l).waiting.entries ++ (opened l).messages (calls.map .call) = account l calls := by
  rw [messages_eq_mapIdx, account, List.mapIdx_append]
  simp only [opened, Nat.add_comm]

theorem pairwise_account (l : Logger) (calls : List Call) :
    (account l calls).Pairwise Numbered.Before := by
  apply List.pairwise_iff_getElem.mpr
  intro i j hi hj hij
  simpa only [account, List.getElem_mapIdx, Numbered.Before] using hij

theorem number_lt_of_mem_account {l : Logger} {calls : List Call} {m : Numbered}
    (h : m ∈ account l calls) : m.number < (account l calls).length := by
  obtain ⟨i, hi, rfl⟩ := List.mem_mapIdx.mp h
  rwa [account, List.length_mapIdx]

theorem next_of_opened (l : Logger) (calls : List Call) :
    ((opened l).run (calls.map .call)).next = (account l calls).length := by
  rw [next_run, ← account_eq, List.length_append]
  simp only [opened, List.length_mapIdx]

theorem sublist_of_opened (l : Logger) (calls : List Call) :
    List.Sublist
      (fromHead ((opened l).departures (calls.map .call)) ++
        ((opened l).run (calls.map .call)).waiting.entries)
      (account l calls) := by
  rw [← account_eq]
  exact (opened l).run_sublist _

theorem ordered_of_opened (l : Logger) (calls : List Call) :
    ((opened l).run (calls.map .call)).Ordered := by
  have hs := (List.sublist_append_right _ _).trans (sublist_of_opened l calls)
  refine ⟨(pairwise_account l calls).sublist hs, fun m hm => ?_⟩
  rw [next_of_opened]
  exact number_lt_of_mem_account (hs.subset hm)

end Ledger

/-- A ledger accounts for every message of a run: each departs once or still waits, none overtakes
another at the head, and pops take the newest. The last clause is about any call that comes next, so
it holds of every call of every run. -/
theorem exactly_one_fate (l : Logger) (calls : List Call) :
    let k := (Ledger.opened l).run (calls.map .call)
    let gone := (Ledger.opened l).departures (calls.map .call)
    k.logger = (l.run calls).logger ∧ k.waiting.map Numbered.entry = k.logger.backlog ∧
      k.next = (Ledger.account l calls).length ∧
      (gone.map Departure.message ++ k.waiting.entries).Perm (Ledger.account l calls) ∧
      k.waiting.entries.Pairwise Numbered.Before ∧
      (Ledger.fromHead gone).Pairwise Numbered.Before ∧
      ∀ c, k.Shows c ∧ k.Timely c ∧ k.PopsNewest c := by
  intro k gone
  have ho : k.Ordered := Ledger.ordered_of_opened l calls
  have hs := (List.sublist_append_left _ _).trans (Ledger.sublist_of_opened l calls)
  have hp : (gone.map Departure.message ++ k.waiting.entries).Perm (Ledger.account l calls) := by
    rw [← Ledger.account_eq]
    exact (Ledger.opened l).run_perm _
  exact ⟨Ledger.logger_run _ calls, k.waiting_map, Ledger.next_of_opened l calls, hp, ho.1,
    (Ledger.pairwise_account l calls).sublist hs,
    fun c => ⟨k.shows c, ho.timely c, ho.popsNewest c⟩⟩

end Logbook
