import Logbook.Host.Request
import Logbook.Proofs.Configuration
import Logbook.Proofs.Cut
import Logbook.Proofs.Logger

namespace Logbook

namespace Logger

inductive Reachable : Logger → Prop
  | initial : Reachable .initial
  | made (s : Settings Sink) : Reachable (ofSettings s).logger
  | request {l : Logger} (h : Reachable l) (r : Request) : Reachable (r.perform l).logger

def after (l : Logger) : List Request → Logger
  | [] => l
  | r :: rest => after (r.perform l).logger rest

theorem after_append (l : Logger) (rs ss : List Request) :
    l.after (rs ++ ss) = (l.after rs).after ss := by
  induction rs generalizing l with
  | nil => rfl
  | cons r rest ih => exact ih (r.perform l).logger

theorem Reachable.after {l : Logger} (h : Reachable l) (rs : List Request) :
    Reachable (l.after rs) := by
  induction rs generalizing l with
  | nil => exact h
  | cons r rest ih => exact ih (h.request r)

structure WellFormed (l : Logger) : Prop where
  size_le : l.backlog.size ≤ l.backlog.capacity
  logPrefix_le : l.logPrefix.utf8ByteSize ≤ textLimit
  custom_le : ∀ text, l.diagnosticPrefix = .custom text →
    1 ≤ text.utf8ByteSize ∧ text.utf8ByteSize ≤ textLimit
  kept : ∀ e ∈ l.backlog.entries, l.retention.keeps e.severity = true
  text_eq : ∀ e ∈ l.backlog.entries, ∃ body : String,
    body.utf8ByteSize ≤ textLimit ∧ e.text = l.prefixFor e.severity ++ body

/-- What one call does to a logger: it applies settings, keeps one message more, or takes messages
out. -/
theorem perform_cases (l : Logger) (c : Call) :
    (∃ s, c.settings? = some s ∧ (l.perform c).logger = l.applied s.accepted) ∨
      c.settings? = none ∧
        ((∃ s origin message, l.keeps s = true ∧
            (l.perform c).logger =
              l.withEntries ((l.backlog.entries ++ [l.entryOf s origin message]).rtake
                l.backlog.capacity)) ∨
          ∃ es, List.Sublist es l.backlog.entries ∧ (l.perform c).logger = l.withEntries es) := by
  have hself : ∃ es, List.Sublist es l.backlog.entries ∧ l = l.withEntries es :=
    ⟨l.backlog.entries, List.Sublist.refl _, rfl⟩
  cases c with
  | log s origin message =>
    by_cases h : l.keeps s = true
    · exact .inr ⟨rfl, .inl ⟨s, origin, message, h, logger_log_of_keeps h origin message⟩⟩
    · refine .inr ⟨rfl, .inr ⟨l.backlog.entries, List.Sublist.refl _, ?_⟩⟩
      exact (log_of_not_keeps (Bool.eq_false_iff.mpr h) origin message).1
  | emit count context => exact .inr ⟨rfl, .inr ⟨_, List.drop_sublist _ _, rfl⟩⟩
  | pop => exact .inr ⟨rfl, .inr ⟨_, List.dropLast_sublist _, l.logger_pop⟩⟩
  | popInto buffer context =>
    match buffer with
    | none => exact .inr ⟨rfl, .inr hself⟩
    | some [] => exact .inr ⟨rfl, .inr hself⟩
    | some (_ :: _) => exact .inr ⟨rfl, .inr ⟨_, List.dropLast_sublist _, l.logger_pop⟩⟩
  | drain => exact .inr ⟨rfl, .inr ⟨[], List.nil_sublist _, l.logger_drain⟩⟩
  | discard => exact .inr ⟨rfl, .inr ⟨[], List.nil_sublist _, rfl⟩⟩
  | configure s => exact .inl ⟨s, rfl, l.logger_configure s⟩
  | start s => exact .inl ⟨s.unbuffered, rfl, l.logger_start s⟩
  | count => exact .inr ⟨rfl, .inr hself⟩
  | capacity => exact .inr ⟨rfl, .inr hself⟩

namespace WellFormed

variable {l : Logger}

theorem prefixFor_le (h : l.WellFormed) (s : Severity) :
    (l.prefixFor s).utf8ByteSize ≤ textLimit := by
  have hd : (l.diagnosticPrefix.textFor s).utf8ByteSize ≤ textLimit := by
    cases hp : l.diagnosticPrefix with
    | bySeverity => cases s <;> decide
    | custom text => exact (h.custom_le text hp).2
  cases s with
  | info => exact h.logPrefix_le
  | warning | error => exact hd

theorem format_le (h : l.WellFormed) (s : Severity) (message : String) :
    (l.format s message).utf8ByteSize ≤ textLimit + textLimit := by
  rw [format, String.utf8ByteSize_append]
  exact Nat.add_le_add (h.prefixFor_le s) (Text.utf8ByteSize_cut_le message textLimit)

theorem text_le (h : l.WellFormed) {e : Entry} (he : e ∈ l.backlog.entries) :
    e.text.utf8ByteSize ≤ textLimit + textLimit := by
  obtain ⟨body, hb, ht⟩ := h.text_eq e he
  rw [ht, String.utf8ByteSize_append]
  exact Nat.add_le_add (h.prefixFor_le e.severity) hb

theorem withEntries (h : l.WellFormed) {es : List Entry} (hl : es.length ≤ l.backlog.capacity)
    (he : ∀ e ∈ es, e ∈ l.backlog.entries ∨
      ∃ s origin message, l.keeps s = true ∧ e = l.entryOf s origin message) :
    (l.withEntries es).WellFormed where
  size_le := hl
  logPrefix_le := h.logPrefix_le
  custom_le := h.custom_le
  kept e hm := by
    obtain ho | ⟨s, origin, message, hk, rfl⟩ := he e hm
    · exact h.kept e ho
    · exact (Bool.and_eq_true_iff.mp hk).2
  text_eq e hm := by
    obtain ho | ⟨s, origin, message, -, rfl⟩ := he e hm
    · exact h.text_eq e ho
    · exact ⟨Text.cut message textLimit, Text.utf8ByteSize_cut_le _ _, rfl⟩

theorem custom_ofText {text out : String} (h : DiagnosticPrefix.ofText text = .custom out) :
    out = text ∧ 1 ≤ out.utf8ByteSize := by
  unfold DiagnosticPrefix.ofText at h
  split at h
  · cases h
  · next hn =>
    cases h
    refine ⟨rfl, Nat.one_le_iff_ne_zero.mpr fun hz => hn ?_⟩
    rw [String.utf8ByteSize_eq_zero_iff.mp hz]
    rfl

theorem le_of_filter_fits {text? : Option String} {text : String}
    (h : text?.filter fits = some text) : text.utf8ByteSize ≤ textLimit :=
  of_decide_eq_true (Option.filter_eq_some_iff.mp h).2

theorem applied (h : l.WellFormed) (s : Settings Sink) : (l.applied s.accepted).WellFormed where
  size_le := Nat.zero_le _
  logPrefix_le := by
    cases hp : s.logPrefix.filter fits with
    | none =>
      simp only [Logger.applied, Settings.accepted, hp, Option.getD_none]
      exact h.logPrefix_le
    | some text =>
      simp only [Logger.applied, Settings.accepted, hp, Option.getD_some]
      exact le_of_filter_fits hp
  custom_le out ho := by
    cases hp : s.diagnosticPrefix.filter fits with
    | none =>
      rw [Logger.applied, Settings.accepted, hp] at ho
      exact h.custom_le out ho
    | some text =>
      rw [Logger.applied, Settings.accepted, hp] at ho
      obtain ⟨rfl, h1⟩ := custom_ofText ho
      exact ⟨h1, le_of_filter_fits hp⟩
  -- nothing waits behind the new prefixes
  kept e he := absurd he List.not_mem_nil
  text_eq e he := absurd he List.not_mem_nil

theorem perform (h : l.WellFormed) (c : Call) : (l.perform c).logger.WellFormed := by
  obtain ⟨s, -, hs⟩ | ⟨-, ⟨s, origin, message, hk, hs⟩ | ⟨es, hes, hs⟩⟩ := l.perform_cases c
  · rw [hs]
    exact h.applied s
  · rw [hs]
    refine h.withEntries ?_ fun e he => ?_
    · rw [Backlog.length_rtake]
      exact Nat.min_le_left _ _
    · obtain ho | hn := List.mem_append.mp (List.mem_of_mem_drop he)
      · exact .inl ho
      · exact .inr ⟨s, origin, message, hk, List.mem_singleton.mp hn⟩
  · rw [hs]
    exact h.withEntries (hes.length_le.trans h.size_le) fun e he => .inl (hes.subset he)

theorem log_le (h : l.WellFormed) (s : Severity) (origin : Option String) (message : String) :
    ∀ d ∈ (l.log s origin message).deliveries, d.text.utf8ByteSize ≤ textLimit + textLimit := by
  intro d hd
  by_cases hk : l.keeps s = true
  · rw [(log_of_keeps hk origin message).2] at hd
    exact absurd hd List.not_mem_nil
  · rw [(log_of_not_keeps (Bool.eq_false_iff.mpr hk) origin message).2] at hd
    rw [List.mem_singleton.mp hd, emission, Entry.render_false]
    exact h.format_le s message

theorem emit_le (h : l.WellFormed) (count : Nat) :
    ∀ d ∈ (l.emit count false).deliveries, d.text.utf8ByteSize ≤ textLimit + textLimit := by
  intro d hd
  obtain ⟨e, he, rfl⟩ := List.mem_map.mp hd
  rw [emission, Entry.render_false]
  exact h.text_le (List.mem_of_mem_take he)

/-- The report is behind the old prefix, so its size is that of a message. -/
theorem configure_le (h : l.WellFormed) (s : Settings Sink) :
    ∀ d ∈ (l.configure s).deliveries, d.text.utf8ByteSize ≤ textLimit + textLimit := by
  intro d hd
  rw [deliveries_configure] at hd
  obtain ⟨f, -, rfl⟩ := List.mem_map.mp hd
  exact h.format_le .error f.message

theorem perform_le (h : l.WellFormed) (c : Call) (hc : ∀ count, c ≠ .emit count true) :
    ∀ d ∈ (l.perform c).deliveries, d.text.utf8ByteSize ≤ textLimit + textLimit := by
  cases c with
  | log s origin message => exact h.log_le s origin message
  | emit count context =>
    cases context with
    | true => exact absurd rfl (hc count)
    | false => exact h.emit_le count
  | configure s => exact h.configure_le s
  | start s => exact h.configure_le s.unbuffered
  | pop => exact fun d hd => absurd (l.deliveries_pop ▸ hd) List.not_mem_nil
  | popInto buffer context =>
    exact fun d hd => absurd (l.deliveries_popInto buffer context ▸ hd) List.not_mem_nil
  | drain => exact fun d hd => absurd (l.deliveries_drain ▸ hd) List.not_mem_nil
  | discard | count | capacity => exact fun d hd => absurd hd List.not_mem_nil

end WellFormed

theorem wellFormed_initial : initial.WellFormed where
  size_le := Nat.zero_le _
  logPrefix_le := Nat.zero_le _
  custom_le _ h := by cases h
  kept e he := absurd he List.not_mem_nil
  text_eq e he := absurd he List.not_mem_nil

theorem Reachable.wellFormed {l : Logger} (h : Reachable l) : l.WellFormed := by
  induction h with
  | initial => exact wellFormed_initial
  | made s => exact wellFormed_initial.perform (.configure s)
  | request _ r ih =>
    cases r with
    | reset => exact wellFormed_initial
    | call c => exact ih.perform c

/-- A prefix and a body have at most 200 bytes, so a text has at most 400, wherever it goes. Only the
origin of an entry may make it longer. -/
theorem Reachable.wellFormed_and_text_le {l : Logger} (h : Reachable l) :
    l.WellFormed ∧
      (∀ r : Request, (∀ count, r ≠ .call (.emit count true)) →
        ∀ d ∈ (r.perform l).deliveries, d.text.utf8ByteSize ≤ 400) ∧
      ∀ s, ∀ d ∈ (ofSettings s).deliveries, d.text.utf8ByteSize ≤ 400 := by
  refine ⟨h.wellFormed, fun r hr => ?_, fun s => wellFormed_initial.configure_le s⟩
  cases r with
  | reset => exact fun d hd => absurd hd List.not_mem_nil
  | call c => exact h.wellFormed.perform_le c fun count hc => hr count (congrArg Request.call hc)

theorem wellFormed_and_text_le_of_warning :
    let l := (initial.configure { diagnosticPrefix := some "E: ", maxMessages := 2 }).logger
    let m := (l.log .warning (some "reader") "gap").logger
    let d : Delivery := ⟨.errors .terminated, "E: gap"⟩
    Reachable m ∧ (m.emit 0 false).deliveries = [d] ∧ m.WellFormed ∧ d.text.utf8ByteSize ≤ 400 := by
  intro l m d
  have hl : Reachable l :=
    Reachable.initial.request (.call (.configure { diagnosticPrefix := some "E: ", maxMessages := 2 }))
  have hm : Reachable m := hl.request (.call (.log .warning (some "reader") "gap"))
  have hd : (m.emit 0 false).deliveries = [d] := by decide
  have ht := hm.wellFormed_and_text_le
  refine ⟨hm, hd, ht.1, ht.2.1 (.call (.emit 0 false)) nofun d ?_⟩
  exact hd ▸ List.mem_singleton_self d

end Logger

end Logbook
