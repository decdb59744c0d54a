import Logbook.Proofs.Ledger.Fates
import Logbook.Proofs.Reachable

namespace Logbook.Ledger

variable {k : Ledger}

theorem logger_eq_after (k : Ledger) (rs : List Request) :
    (k.run rs).logger = k.logger.after rs := by
  induction rs generalizing k with
  | nil => rfl
  | cons r rest ih => exact ih (k.perform r)

theorem run_append (k : Ledger) (rs ss : List Request) : k.run (rs ++ ss) = (k.run rs).run ss := by
  induction rs generalizing k with
  | nil => rfl
  | cons r rest ih => exact ih (k.perform r)

theorem departures_append (k : Ledger) (rs ss : List Request) :
    k.departures (rs ++ ss) = k.departures rs ++ (k.run rs).departures ss := by
  induction rs generalizing k with
  | nil => rfl
  | cons r rest ih =>
    rw [List.cons_append, departures, departures, ih, List.append_assoc]
    rfl

theorem logged_cases (k : Ledger) (r : Request) :
    k.logged r = [] ∨ ∃ e, k.logged r = [⟨k.next, e⟩] := by
  cases r with
  | reset => exact .inl rfl
  | call c =>
    cases c with
    | log s origin message => exact .inr ⟨_, rfl⟩
    | _ => exact .inl rfl

theorem number_of_mem_logged {r : Request} {m : Numbered} (h : m ∈ k.logged r) :
    m.number = k.next ∧ (k.perform r).next = k.next + 1 := by
  obtain hl | ⟨e, hl⟩ := k.logged_cases r
  · rw [hl] at h
    exact absurd h List.not_mem_nil
  · have hn : (k.perform r).next = k.next + (k.logged r).length := rfl
    rw [hl] at h hn
    exact ⟨congrArg Numbered.number (List.mem_singleton.mp h), hn⟩

theorem next_le_of_mem_messages {rs : List Request} {m : Numbered} (h : m ∈ k.messages rs) :
    k.next ≤ m.number := by
  induction rs generalizing k with
  | nil => exact absurd h List.not_mem_nil
  | cons r rest ih =>
    obtain hl | hr := List.mem_append.mp h
    · exact Nat.le_of_eq (number_of_mem_logged hl).1.symm
    · exact Nat.le_trans (Nat.le_add_right _ _) (ih hr)

theorem pairwise_messages (k : Ledger) (rs : List Request) :
    (k.messages rs).Pairwise Numbered.Before := by
  induction rs generalizing k with
  | nil => exact List.Pairwise.nil
  | cons r rest ih =>
    rw [messages, List.pairwise_append]
    refine ⟨?_, ih (k.perform r), fun m hm n hn => ?_⟩
    · obtain hl | ⟨e, hl⟩ := k.logged_cases r
      · rw [hl]
        exact List.Pairwise.nil
      · rw [hl]
        exact List.pairwise_singleton _ _
    · have hle := next_le_of_mem_messages hn
      obtain ⟨he, hs⟩ := number_of_mem_logged hm
      show m.number < n.number
      omega

theorem Ordered.pairwise (h : k.Ordered) (rs : List Request) :
    (k.waiting.entries ++ k.messages rs).Pairwise Numbered.Before := by
  rw [List.pairwise_append]
  refine ⟨h.1, k.pairwise_messages rs, fun m hm n hn => ?_⟩
  exact Nat.lt_of_lt_of_le (h.2 m hm) (next_le_of_mem_messages hn)

theorem Ordered.perform (h : k.Ordered) (r : Request) : (k.perform r).Ordered := by
  have hs : List.Sublist (k.perform r).waiting.entries (k.waiting.entries ++ k.messages [r]) := by
    have hp := (List.sublist_append_right _ _).trans (k.part_sublist r)
    rwa [messages, messages, List.append_nil]
  refine ⟨(h.pairwise [r]).sublist hs, fun m hm => ?_⟩
  obtain hw | hl := List.mem_append.mp (hs.subset hm)
  · exact Nat.lt_of_lt_of_le (h.2 m hw) (Nat.le_add_right _ _)
  · rw [messages, messages, List.append_nil] at hl
    obtain ⟨he, hn⟩ := number_of_mem_logged hl
    omega

theorem Ordered.run (h : k.Ordered) (rs : List Request) : (k.run rs).Ordered := by
  induction rs generalizing k with
  | nil => exact h
  | cons r rest ih => exact ih (h.perform r)

theorem ordered_opened (l : Logger) : (opened l).Ordered := ordered_of_opened l []

theorem Ordered.nodup (h : k.Ordered) (early : List Request) (r : Request) (late : List Request) :
    let m := k.run early
    ((k.departures early).map Departure.message ++ ((m.part r).gone.map Departure.message ++
      ((m.perform r).departures late).map Departure.message)).Nodup := by
  intro m
  have hp := k.run_perm (early ++ r :: late)
  have hd : ((k.departures (early ++ r :: late)).map Departure.message).Nodup := by
    have hn : (k.waiting.entries ++ k.messages (early ++ r :: late)).Nodup := by
      refine (h.pairwise (early ++ r :: late)).imp fun {m n} hb he => ?_
      rw [Numbered.Before, he] at hb
      exact Nat.lt_irrefl _ hb
    exact (List.nodup_append.mp (hp.nodup_iff.mpr hn)).1
  rwa [departures_append, departures, List.map_append, List.map_append] at hd

/-- The oldest `count` of the messages that wait, all of them when `count` is nothing. -/
def oldest (k : Ledger) (count : Nat) : List Numbered :=
  if count = 0 then k.waiting.entries else k.waiting.entries.take count

theorem oldest_prefix (k : Ledger) (count : Nat) :
    List.IsPrefix (k.oldest count) k.waiting.entries := by
  rw [oldest]
  split
  · exact List.prefix_rfl
  · exact List.take_prefix count _

theorem gone_emit (k : Ledger) (count : Nat) (context : Bool) :
    (k.part (.call (.emit count context))).gone = (k.oldest count).map fun x => ⟨x, .emitted⟩ := by
  have ht : (k.waiting.takeOldest count).1 = k.oldest count := by
    rw [Backlog.takeOldest, Backlog.selected, Backlog.size, oldest]
    split
    · exact List.take_length
    · exact List.take_eq_take_min.symm
  rw [part, Parting.of, ht]

theorem perform_emit (k : Ledger) (count : Nat) (context : Bool) :
    let p := k.logger.perform (.emit count context)
    p.value = .number (k.oldest count).length ∧
      p.deliveries = (k.oldest count).map fun x =>
        ⟨k.logger.sinkFor x.entry.severity, x.entry.render context⟩ := by
  obtain ⟨hv, hd⟩ := k.shows (.emit count context)
  rw [gone_emit, entry_map] at hv hd
  rw [List.length_map] at hv
  rw [List.map_map] at hd
  exact ⟨hv, hd⟩

theorem Ordered.emit_apart (h : k.Ordered) (early late : List Request) (count : Nat)
    (context : Bool) :
    let m := k.run early
    let n := m.perform (.call (.emit count context))
    ∀ x ∈ m.oldest count, x ∉ n.messages late ∧
      ∀ d ∈ k.departures early ++ n.departures late, d.message ≠ x := by
  intro m n x hx
  have hg : x ∈ (m.part (.call (.emit count context))).gone.map Departure.message := by
    rw [gone_emit, message_map]
    exact hx
  refine ⟨fun hn => ?_, fun d hd he => ?_⟩
  · have hlt : x.number < m.next := (h.run early).2 x ((m.oldest_prefix count).subset hx)
    have hle : m.next ≤ x.number := next_le_of_mem_messages (k := n) hn
    omega
  · obtain ⟨-, hl, hu⟩ := List.nodup_append.mp (h.nodup early (.call (.emit count context)) late)
    obtain hd | hd := List.mem_append.mp hd
    · exact hu _ (List.mem_map_of_mem hd) x (List.mem_append_left _ hg) he
    · exact (List.nodup_append.mp hl).2.2 x hg _ (List.mem_map_of_mem hd) he.symm

end Logbook.Ledger
