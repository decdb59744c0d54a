import Logbook.Proofs.Forwarding

namespace Logbook

namespace Tracing

/-- A text is recorded as it is, a value of another kind as it would be shown for debugging, and an
absent one not at all. -/
def FieldValue.recorded? : FieldValue → Option String
  | text t => some t
  | quoted t => some (Text.quoted t)
  | int n => some (toString n)
  | bool b => some (toString b)
  | float x => some (layout.write x)
  | absent => none

theorem FieldValue.render?_eq_recorded? (v : FieldValue) : v.render? = v.recorded? := by
  cases v with
  | bool b => cases b <;> rfl
  | _ => rfl

def Event.recorded (e : Event) : List (String × String) :=
  e.fields.filterMap fun f => f.value.recorded?.map fun value => (f.name, value)

def described : List (String × String) → String
  | [] => ""
  | (name, value) :: rest => " " ++ name ++ "=" ++ value ++ described rest

theorem described_append (fields more : List (String × String)) :
    described (fields ++ more) = described fields ++ described more := by
  induction fields with
  | nil => simp [described]
  | cons f rest ih => simp [described, ih, String.append_assoc]

namespace Message

def note (m : Message) (f : String × String) : Message :=
  if f.1 = "message" then { m with main := some f.2 }
  else { m with others := m.others ++ " " ++ f.1 ++ "=" ++ f.2 }

theorem ofFields_eq (e : Event) : ofFields e.fields = e.recorded.foldl note {} := by
  rw [Event.recorded, List.foldl_filterMap, ofFields]
  congr 1
  funext m f
  rw [record, FieldValue.render?_eq_recorded?]
  cases f.value.recorded? <;> rfl

theorem foldl_note_of_others {fields : List (String × String)}
    (h : ∀ f ∈ fields, f.1 ≠ "message") (m : Message) :
    fields.foldl note m = { m with others := m.others ++ described fields } := by
  induction fields generalizing m with
  | nil => simp [described]
  | cons f rest ih =>
    obtain ⟨hf, hr⟩ := List.forall_mem_cons.mp h
    rw [List.foldl_cons, ih hr, note, if_neg hf]
    simp [described, String.append_assoc]

end Message

section

variable {e : Event} {earlier later : List (String × String)} {main : String}

theorem Event.text?_of_recorded (he : ∀ f ∈ earlier, f.1 ≠ "message")
    (hl : ∀ f ∈ later, f.1 ≠ "message")
    (h : e.recorded = earlier ++ ("message", main) :: later) :
    e.text? = some (main ++ described (earlier ++ later)) := by
  rw [text?, Message.ofFields_eq, h, List.foldl_append, List.foldl_cons,
    Message.foldl_note_of_others he, Message.foldl_note_of_others hl, described_append]
  simp [Message.text?, Message.note]

theorem Event.text?_eq_none_iff_recorded (e : Event) :
    e.text? = none ↔ ∀ f ∈ e.recorded, f.1 ≠ "message" := by
  rw [text?_eq_none_iff]
  constructor
  · intro h f hf hn
    obtain ⟨g, hg, hr⟩ := List.mem_filterMap.mp hf
    obtain ⟨value, hv, rfl⟩ := Option.map_eq_some_iff.mp hr
    have ha := (FieldValue.render?_eq_none_iff g.value).mpr (h g hg hn)
    rw [FieldValue.render?_eq_recorded?, hv] at ha
    cases ha
  · intro h f hf hn
    rw [← FieldValue.render?_eq_none_iff, FieldValue.render?_eq_recorded?]
    cases hv : f.value.recorded? with
    | none => rfl
    | some value =>
      have hm : (f.name, value) ∈ e.recorded :=
        List.mem_filterMap.mpr ⟨f, hf, by rw [hv]; rfl⟩
      exact absurd hn (h _ hm)

theorem forall_ne_of_countP_le_one {fields earlier later : List (String × String)} {main : String}
    (h : fields.countP (fun f => f.1 = "message") ≤ 1)
    (hr : fields = earlier ++ ("message", main) :: later) :
    (∀ f ∈ earlier, f.1 ≠ "message") ∧ ∀ f ∈ later, f.1 ≠ "message" := by
  rw [hr, List.countP_append, List.countP_cons_of_pos (by simp)] at h
  have he : earlier.countP (fun f => f.1 = "message") = 0 := by omega
  have hl : later.countP (fun f => f.1 = "message") = 0 := by omega
  constructor
  · simpa using List.countP_eq_zero.mp he
  · simpa using List.countP_eq_zero.mp hl

theorem Event.request?_of_text {s : Severity} {text : String} (ho : ¬ IsOwn e.target)
    (hs : e.verbosity.severity? = some s) (ht : e.text? = some text) :
    e.request? = some (.call (.log s (some e.target) text)) := by
  rw [request?, if_neg fun h => ho ((isOwnTarget_iff e.target).mp h), hs, ht]
  rfl

end

end Tracing

end Logbook
