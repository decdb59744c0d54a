namespace Logbook

/-- The oldest item comes first. -/
structure Backlog (α : Type) where
  capacity : Nat
  entries : List α
deriving DecidableEq

namespace Backlog

variable {α β : Type}

def empty (capacity : Nat) : Backlog α := ⟨capacity, []⟩

def disabled : Backlog α := empty 0

def isEnabled (b : Backlog α) : Bool := 0 < b.capacity

def size (b : Backlog α) : Nat := b.entries.length

def oldest? (b : Backlog α) : Option α := b.entries.head?

def newest? (b : Backlog α) : Option α := b.entries.getLast?

def evict (kept : Nat) : List α → List α × List α
  | [] => ([], [])
  | a :: rest =>
    if kept < rest.length + 1 then
      let (gone, left) := evict kept rest
      (a :: gone, left)
    else ([], a :: rest)

/-- Makes room for one item, then appends it. Without capacity the item itself is turned away. -/
def push (b : Backlog α) (a : α) : List α × Backlog α :=
  if b.capacity = 0 then ([a], b)
  else
    let (gone, left) := evict (b.capacity - 1) b.entries
    (gone, { b with entries := left ++ [a] })

/-- The number of items that a count selects; nothing stands for all of them. -/
def selected (b : Backlog α) (count : Nat) : Nat :=
  if count = 0 then b.size else min count b.size

def takeOldest (b : Backlog α) (count : Nat) : List α × Backlog α :=
  (b.entries.take (b.selected count), { b with entries := b.entries.drop (b.selected count) })

def popNewest (b : Backlog α) : Option (α × Backlog α) :=
  b.entries.getLast?.map fun a => (a, { b with entries := b.entries.dropLast })

def clear (b : Backlog α) : List α × Backlog α :=
  (b.entries, { b with entries := [] })

def map (f : α → β) (b : Backlog α) : Backlog β :=
  ⟨b.capacity, b.entries.map f⟩

theorem evict_eq (kept : Nat) (entries : List α) :
    evict kept entries =
      (entries.take (entries.length - kept), entries.drop (entries.length - kept)) := by
  induction entries with
  | nil => simp [evict]
  | cons a rest ih =>
    by_cases h : kept < rest.length + 1
    · have hs : rest.length + 1 - kept = (rest.length - kept) + 1 := by omega
      simp [evict, h, ih, hs]
    · have hs : rest.length + 1 - kept = 0 := by omega
      simp [evict, h, hs]

theorem push_of_capacity_eq_zero {b : Backlog α} (h : b.capacity = 0) (a : α) :
    b.push a = ([a], b) := by
  simp [push, h]

theorem push_append {b : Backlog α} (h : b.capacity ≠ 0) (a : α) :
    (b.push a).1 ++ (b.push a).2.entries = b.entries ++ [a] := by
  simp only [push, h, if_false, evict_eq]
  rw [← List.append_assoc, List.take_append_drop]

theorem capacity_push (b : Backlog α) (a : α) : (b.push a).2.capacity = b.capacity := by
  by_cases h : b.capacity = 0 <;> simp [push, h]

theorem takeOldest_append (b : Backlog α) (count : Nat) :
    (b.takeOldest count).1 ++ (b.takeOldest count).2.entries = b.entries := by
  simp [takeOldest]

theorem entries_eq_of_popNewest {b c : Backlog α} {a : α} (h : b.popNewest = some (a, c)) :
    b.entries = c.entries ++ [a] ∧ c.capacity = b.capacity := by
  simp only [popNewest, Option.map_eq_some_iff] at h
  obtain ⟨x, hx, hp⟩ := h
  obtain ⟨rfl, rfl⟩ := Prod.mk.inj hp
  obtain ⟨ys, hys⟩ := List.getLast?_eq_some_iff.1 hx
  simp [hys]

theorem popNewest_eq_none_iff (b : Backlog α) : b.popNewest = none ↔ b.entries = [] := by
  simp [popNewest]

end Backlog

end Logbook
