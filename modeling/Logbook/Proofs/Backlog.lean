import Logbook.Backlog
import Mathlib.Data.List.DropRight

namespace Logbook.Backlog

variable {α β : Type}

theorem rtake_rtake_append (n : Nat) (as bs : List α) :
    (as.rtake n ++ bs).rtake n = (as ++ bs).rtake n := by
  simp only [List.rtake_eq_reverse_take_reverse, List.reverse_append, List.reverse_reverse]
  rw [List.take_append, List.take_append, List.take_take, List.length_reverse]
  have hn : min (n - bs.length) n = n - bs.length := by omega
  rw [hn]

theorem length_rtake (n : Nat) (as : List α) : (as.rtake n).length = min n as.length := by
  rw [List.rtake, List.length_drop]
  omega

theorem rtake_of_length_le {n : Nat} {as : List α} (h : as.length ≤ n) : as.rtake n = as := by
  rw [List.rtake, Nat.sub_eq_zero_of_le h, List.drop_zero]

theorem drop_suffix_drop {m n : Nat} {as bs : List α} (h : as <:+ bs)
    (hl : as.length - m ≤ bs.length - n) : as.drop m <:+ bs.drop n := by
  apply List.suffix_of_suffix_length_le ((List.drop_suffix m as).trans h) (List.drop_suffix n bs)
  simpa using hl

theorem dropLast_suffix_dropLast {as bs : List α} (h : as <:+ bs) :
    as.dropLast <:+ bs.dropLast := by
  obtain ⟨cs, rfl⟩ := h
  by_cases ha : as = []
  · rw [ha]
    exact List.nil_suffix
  · rw [List.dropLast_append_of_ne_nil ha]
    exact List.suffix_append _ _

theorem rtake_suffix_rtake {m n : Nat} (hn : m ≤ n) {as bs : List α} (h : as <:+ bs) :
    as.rtake m <:+ bs.rtake n := by
  have hl := h.length_le
  apply drop_suffix_drop h
  omega

theorem map_rtake (f : α → β) (n : Nat) (as : List α) :
    (as.rtake n).map f = (as.map f).rtake n := by
  rw [List.rtake, List.rtake, List.map_drop, List.length_map]

theorem push_snd {b : Backlog α} (h : b.capacity ≠ 0) (a : α) :
    (b.push a).2 = { b with entries := (b.entries ++ [a]).rtake b.capacity } := by
  have hn : (b.entries ++ [a]).length - b.capacity = b.entries.length - (b.capacity - 1) := by
    rw [List.length_append, List.length_singleton]
    omega
  have hle : b.entries.length - (b.capacity - 1) ≤ b.entries.length := Nat.sub_le _ _
  simp only [push, h, if_false, evict_eq, List.rtake, hn, List.drop_append_of_le_length hle]

theorem push_prefix {b : Backlog α} (h : b.capacity ≠ 0) (a : α) :
    List.IsPrefix (b.push a).1 b.entries := by
  simp only [push, h, if_false, evict_eq]
  exact List.take_prefix _ _

theorem entries_takeOldest (b : Backlog α) (count : Nat) :
    (b.takeOldest count).2.entries = if count = 0 then [] else b.entries.drop count := by
  by_cases hc : count = 0
  · simp [takeOldest, selected, size, hc]
  · by_cases hl : count ≤ b.entries.length
    · simp [takeOldest, selected, size, hc, Nat.min_eq_left hl]
    · have hd : b.entries.drop count = [] := List.drop_eq_nil_of_le (by omega)
      have hm : min count b.entries.length = b.entries.length := by omega
      simp [takeOldest, selected, size, hc, hm, hd]

theorem map_evict (f : α → β) (kept : Nat) (entries : List α) :
    evict kept (entries.map f) = Prod.map (List.map f) (List.map f) (evict kept entries) := by
  simp only [evict_eq, List.length_map, Prod.map_apply, List.map_take, List.map_drop]

theorem map_push (f : α → β) (b : Backlog α) (a : α) :
    (b.map f).push (f a) = Prod.map (List.map f) (map f) (b.push a) := by
  by_cases h : b.capacity = 0
  · simp [push, map, h]
  · simp [push, map, h, map_evict]

theorem map_takeOldest (f : α → β) (b : Backlog α) (count : Nat) :
    (b.map f).takeOldest count = Prod.map (List.map f) (map f) (b.takeOldest count) := by
  have hs : (b.map f).selected count = b.selected count := by
    simp only [selected, size, map, List.length_map]
  simp only [takeOldest, hs]
  simp only [map, Prod.map_apply, List.map_take, List.map_drop]

end Logbook.Backlog
