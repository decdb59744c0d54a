import Logbook.Proofs.Ledger
import Mathlib.Data.List.Perm.Basic

namespace Logbook

def Logger.messages (l : Logger) : List Call → List Entry
  | [] => []
  | .log s origin message :: rest =>
    l.entryOf s origin message :: messages (l.perform (.log s origin message)).logger rest
  | c :: rest => messages (l.perform c).logger rest

namespace Ledger

variable (k : Ledger)

def messages (k : Ledger) : List Request → List Numbered
  | [] => []
  | r :: rest => k.logged r ++ messages (k.perform r) rest

theorem popOne_append : k.popOne.2.entries ++ k.popOne.1.reverse = k.waiting.entries := by
  rw [popOne]
  cases h : k.waiting.popNewest with
  | none => exact List.append_nil _
  | some p => exact (Backlog.entries_eq_of_popNewest h).1.symm

theorem logged_of_popped {c : Call} (h : Fate.popped.comesFrom c = true) :
    k.logged (.call c) = [] := by
  cases c with
  | log => exact absurd h Bool.false_ne_true
  | _ => rfl

theorem part_of_popped {c : Call} (h : Fate.popped.comesFrom c = true) :
    ∃ ms : List Numbered, (k.part (.call c)).gone = ms.map (fun m => ⟨m, .popped⟩) ∧
      (k.part (.call c)).stays.entries ++ ms.reverse = k.waiting.entries := by
  cases c with
  | pop => exact ⟨k.popOne.1, rfl, k.popOne_append⟩
  | popInto buffer context =>
    obtain - | (- | ⟨b, bytes⟩) := buffer
    · exact ⟨[], rfl, List.append_nil _⟩
    · exact ⟨[], rfl, List.append_nil _⟩
    · exact ⟨k.popOne.1, rfl, k.popOne_append⟩
  | drain => exact ⟨k.waiting.entries.reverse, rfl, List.reverse_reverse _⟩
  | log | emit | discard | configure | start | count | capacity => exact absurd h Bool.false_ne_true

/-- Messages leave from the head in their order, from the end in reverse order, or without having
waited. Whatever else is said of one request follows from this. -/
theorem part_cases (r : Request) :
    ∃ fate ms, (k.part r).gone = ms.map (fun m => ⟨m, fate⟩) ∧
      ((fate ≠ .passed ∧ List.IsPrefix ms k.waiting.entries ∧
          ms ++ (k.part r).stays.entries = k.waiting.entries ++ k.logged r) ∨
        (fate = .popped ∧ k.logged r = [] ∧
          (k.part r).stays.entries ++ ms.reverse = k.waiting.entries) ∨
        (fate = .passed ∧ k.logged r = ms ∧ (k.part r).stays = k.waiting)) := by
  cases r with
  | reset => exact ⟨.replaced, k.waiting.entries, rfl, .inl ⟨by decide, List.prefix_rfl, rfl⟩⟩
  | call c =>
    -- pops, copies and drains take from the end, all others from the head
    by_cases hp : Fate.popped.comesFrom c = true
    · obtain ⟨ms, hg, hs⟩ := k.part_of_popped hp
      exact ⟨.popped, ms, hg, .inr (.inl ⟨rfl, logged_of_popped k hp, hs⟩)⟩
    cases c with
    | log s origin message =>
      let m : Numbered := ⟨k.next, k.logger.entryOf s origin message⟩
      by_cases h : k.logger.keeps s = true
      · have hc : k.waiting.capacity ≠ 0 := by
          have hn := Logger.capacity_ne_zero_of_keeps h
          rwa [← k.waiting_map] at hn
        have hp : k.part (.call (.log s origin message)) = .of .evicted (k.waiting.push m) := by
          simp only [part, h, if_true, m]
        refine ⟨.evicted, (k.waiting.push m).1, by rw [hp]; rfl,
          .inl ⟨by decide, Backlog.push_prefix hc m, ?_⟩⟩
        rw [hp]
        exact Backlog.push_append hc m
      · have hp : k.part (.call (.log s origin message)) = .of .passed ([m], k.waiting) := by
          simp only [part, h, if_false, m, Bool.false_eq_true]
        exact ⟨.passed, [m], by rw [hp]; rfl, .inr (.inr ⟨rfl, rfl, by rw [hp]; rfl⟩)⟩
    | emit count context =>
      refine ⟨.emitted, (k.waiting.takeOldest count).1, rfl,
        .inl ⟨by decide, List.take_prefix _ _, ?_⟩⟩
      exact (Backlog.takeOldest_append k.waiting count).trans (List.append_nil _).symm
    | pop | popInto buffer context | drain => exact absurd rfl hp
    | discard => exact ⟨.discarded, k.waiting.entries, rfl, .inl ⟨by decide, List.prefix_rfl, rfl⟩⟩
    | configure s => exact ⟨.replaced, k.waiting.entries, rfl, .inl ⟨by decide, List.prefix_rfl, rfl⟩⟩
    | start s => exact ⟨.replaced, k.waiting.entries, rfl, .inl ⟨by decide, List.prefix_rfl, rfl⟩⟩
    | count => exact ⟨.popped, [], rfl, .inr (.inl ⟨rfl, rfl, List.append_nil _⟩)⟩
    | capacity => exact ⟨.popped, [], rfl, .inr (.inl ⟨rfl, rfl, List.append_nil _⟩)⟩

def fromHead (gone : List Departure) : List Numbered :=
  (gone.filter fun d => d.fate.atHead).map Departure.message

theorem fromHead_append (gone later : List Departure) :
    fromHead (gone ++ later) = fromHead gone ++ fromHead later := by
  rw [fromHead, List.filter_append, List.map_append, fromHead, fromHead]

theorem fromHead_map (fate : Fate) (ms : List Numbered) :
    fromHead (ms.map fun m => ⟨m, fate⟩) = if fate.atHead then ms else [] := by
  cases h : fate.atHead <;> simp [fromHead, h, List.filter_map, Function.comp_def]

theorem message_map (fate : Fate) (ms : List Numbered) :
    (ms.map fun m => (⟨m, fate⟩ : Departure)).map Departure.message = ms := by
  simp [Function.comp_def]

theorem part_sublist (r : Request) :
    List.Sublist (fromHead (k.part r).gone ++ (k.part r).stays.entries)
      (k.waiting.entries ++ k.logged r) := by
  obtain ⟨fate, ms, hg, ⟨-, -, h⟩ | ⟨rfl, hl, h⟩ | ⟨rfl, -, h⟩⟩ := k.part_cases r
  · rw [hg, fromHead_map, ← h]
    cases fate.atHead with
    | true => exact List.Sublist.refl _
    | false => exact List.sublist_append_right _ _
  · rw [hg, fromHead_map, hl, List.append_nil, ← h]
    exact List.sublist_append_left _ _
  · rw [hg, fromHead_map, h]
    exact List.sublist_append_left _ _

theorem part_perm (r : Request) :
    ((k.part r).gone.map Departure.message ++ (k.part r).stays.entries).Perm
      (k.waiting.entries ++ k.logged r) := by
  obtain ⟨fate, ms, hg, ⟨-, -, h⟩ | ⟨-, hl, h⟩ | ⟨-, hl, h⟩⟩ := k.part_cases r
  · rw [hg, message_map, h]
  · rw [hg, message_map, hl, List.append_nil, ← h]
    exact List.perm_append_comm.trans (List.Perm.append_left _ (List.reverse_perm ms).symm)
  · rw [hg, message_map, hl, h]
    exact List.perm_append_comm

theorem run_sublist (rs : List Request) :
    List.Sublist (fromHead (k.departures rs) ++ (k.run rs).waiting.entries)
      (k.waiting.entries ++ k.messages rs) := by
  induction rs generalizing k with
  | nil => simp [departures, run, messages, fromHead]
  | cons r rest ih =>
    have hs := (k.part_sublist r).append_right (messages (k.perform r) rest)
    have ht := List.Sublist.append_left (ih (k.perform r)) (fromHead (k.part r).gone)
    rw [List.append_assoc, List.append_assoc] at hs
    rw [departures, fromHead_append, run, messages, List.append_assoc]
    exact ht.trans hs

theorem run_perm (rs : List Request) :
    ((k.departures rs).map Departure.message ++ (k.run rs).waiting.entries).Perm
      (k.waiting.entries ++ k.messages rs) := by
  induction rs generalizing k with
  | nil => simp [departures, run, messages]
  | cons r rest ih =>
    have hs := (k.part_perm r).append_right (messages (k.perform r) rest)
    have ht := (ih (k.perform r)).append_left ((k.part r).gone.map Departure.message)
    rw [List.append_assoc, List.append_assoc] at hs
    rw [departures, List.map_append, run, messages, List.append_assoc]
    exact ht.trans hs

end Ledger

end Logbook
