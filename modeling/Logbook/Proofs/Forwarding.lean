import Logbook.Forwarding

namespace Logbook.Tracing

/-- A target of this library: its name alone, a path below it, or a name that goes on with an
underscore. -/
def IsOwn (target : String) : Prop :=
  target = "mslog" ∨ "mslog::".toList <+: target.toList ∨ "mslog_".toList <+: target.toList

instance (target : String) : Decidable (IsOwn target) :=
  inferInstanceAs (Decidable (_ ∨ _ ∨ _))

/-- The request that an event stands for. Only errors, warnings and informational events stand for
one, and only with a text and under a target of other code. -/
def Event.counterpart? (e : Event) : Option Request :=
  if IsOwn e.target then none
  else
    match e.verbosity, e.text? with
    | .error, some text => some (.call (.log .error (some e.target) text))
    | .warn, some text => some (.call (.log .warning (some e.target) text))
    | .info, some text => some (.call (.log .info (some e.target) text))
    | _, _ => none

theorem append_prefix_iff {p q t : List Char} :
    p ++ q <+: t ↔ p <+: t ∧ q <+: t.drop p.length := by
  constructor
  · rintro ⟨r, rfl⟩
    simp
  · rintro ⟨⟨r, rfl⟩, hq⟩
    rw [List.drop_left] at hq
    exact (List.prefix_append_right_inj p).mpr hq

theorem eq_iff_prefix {p t : List Char} : t = p ↔ p <+: t ∧ t.drop p.length = [] := by
  constructor
  · rintro rfl
    simp
  · rintro ⟨⟨r, rfl⟩, hr⟩
    rw [List.drop_left] at hr
    rw [hr, List.append_nil]

theorem isOwnTarget_iff (target : String) : isOwnTarget target = true ↔ IsOwn target := by
  have hn : target = "mslog" ↔ target.toList = ownName := by
    rw [← String.toList_inj]
    exact Iff.rfl
  have hp : "mslog::".toList = ownName ++ [':', ':'] := by decide
  have hu : "mslog_".toList = ownName ++ ['_'] := by decide
  rw [IsOwn, hn, hp, hu, eq_iff_prefix, append_prefix_iff, append_prefix_iff]
  simp only [isOwnTarget, Bool.and_eq_true, Bool.or_eq_true, List.isEmpty_iff,
    List.isPrefixOf_iff_prefix, or_assoc, and_or_left]

theorem request?_eq_counterpart? (e : Event) : e.request? = e.counterpart? := by
  rw [Event.request?, Event.counterpart?]
  by_cases ho : IsOwn e.target
  · rw [if_pos ((isOwnTarget_iff _).mpr ho), if_pos ho]
  · rw [if_neg fun h => ho ((isOwnTarget_iff _).mp h), if_neg ho]
    cases e.verbosity <;> cases e.text? <;> rfl

theorem FieldValue.render?_eq_none_iff (v : FieldValue) : v.render? = none ↔ v = .absent := by
  cases v <;> simp [render?]

namespace Message

theorem main_record (m : Message) (f : Field) :
    (m.record f).main = none ↔ m.main = none ∧ (f.name = "message" → f.value = .absent) := by
  rw [record, ← FieldValue.render?_eq_none_iff]
  cases f.value.render? with
  | none => simp
  | some value => by_cases hn : f.name = "message" <;> simp [hn]

theorem main_foldl_record (m : Message) (fields : List Field) :
    (fields.foldl record m).main = none ↔
      m.main = none ∧ ∀ f ∈ fields, f.name = "message" → f.value = .absent := by
  induction fields generalizing m with
  | nil => simp
  | cons f rest ih =>
    rw [List.foldl_cons, ih, main_record, List.forall_mem_cons, and_assoc]

end Message

theorem Event.text?_eq_none_iff (e : Event) :
    e.text? = none ↔ ∀ f ∈ e.fields, f.name = "message" → f.value = .absent := by
  rw [Event.text?, Message.text?, Option.map_eq_none_iff, Message.ofFields,
    Message.main_foldl_record]
  exact and_iff_right rfl

end Logbook.Tracing
