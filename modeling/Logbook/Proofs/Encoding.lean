import Logbook.Session
import Logbook.Proofs.Json.Writing
import Mathlib.Control.Basic
import Mathlib.Data.Option.Basic

namespace Logbook

open Json

namespace Json

section

variable {n : Nat}

theorem exists_toDigits (hn : 0 < n) : ∃ c rest, Nat.toDigits 10 n = c :: rest ∧ c ≠ '0' := by
  induction n using Nat.strongRecOn with
  | ind n ih =>
    rw [Nat.toDigits_eq_if (by decide)]
    split
    · next h =>
      have hc : ∀ d < 10, 0 < d → Nat.digitChar d ≠ '0' := by decide
      exact ⟨_, [], rfl, hc n h hn⟩
    · next h =>
      obtain ⟨c, rest, he, hc⟩ := ih (n / 10) (by omega) (by omega)
      exact ⟨c, _, by rw [he, List.cons_append], hc⟩

theorem isNumber_toDigits : isNumber (Nat.toDigits 10 n) = true := by
  obtain rfl | hn := Nat.eq_zero_or_pos n
  · decide
  obtain ⟨c, rest, he, hc⟩ := exists_toDigits hn
  have hd : ∀ d ∈ c :: rest, d.isDigit = true := by
    intro d hd
    rw [← he] at hd
    exact Nat.isDigit_of_mem_toDigits (by decide) (by decide) hd
  obtain ⟨h0, hr⟩ := List.forall_mem_cons.mp hd
  have hm : c ≠ '-' := by
    rintro rfl
    cases h0
  rw [he]
  -- `hc` chooses the clause for numbers without a leading zero
  simp [isNumber, isUnsigned, hm, h0, List.dropWhile_eq_nil_iff.mpr hr, isFraction, isExponent]

end

namespace Value

theorem readable_ofText (text : String) : (ofText text).Readable := by
  simp [Readable, ofText, tokens]

theorem readable_ofOptionalText (text : Option String) : (ofOptionalText text).Readable := by
  cases text with
  | none => simp [Readable, ofOptionalText, tokens]
  | some text => exact readable_ofText text

theorem readable_ofNat (n : Nat) : (ofNat n).Readable := by
  simp [Readable, ofNat, tokens, isNumber_toDigits]

theorem exists_of_mem_memberTokens {literal : List Char} :
    ∀ members : List (Option String × Value), .number literal ∈ memberTokens members →
      ∃ m ∈ members, .number literal ∈ m.2.tokens
  | [], h => absurd h List.not_mem_nil
  | [m], h => ⟨m, List.mem_singleton_self m, by simpa [memberTokens] using h⟩
  | m :: next :: rest, h => by
    have h : .number literal ∈ m.2.tokens ∨ .number literal ∈ memberTokens (next :: rest) := by
      simpa [memberTokens] using h
    obtain h | h := h
    · exact ⟨m, List.mem_cons_self, h⟩
    · obtain ⟨n, hn, h⟩ := exists_of_mem_memberTokens (next :: rest) h
      exact ⟨n, List.mem_cons_of_mem m hn, h⟩

theorem readable_ofMembers {members : List (String × Value)}
    (h : ∀ m ∈ members, m.2.Readable) : (ofMembers members).Readable := by
  intro literal hl
  obtain ⟨m, hm, hl⟩ := exists_of_mem_memberTokens _ (by simpa [ofMembers, tokens] using hl)
  obtain ⟨n, hn, rfl⟩ := List.mem_map.mp hm
  exact h n hn literal hl

theorem nat?_ofNat (n : Nat) : (ofNat n).nat? = some n := by
  have hd : (Nat.toDigits 10 n).all Char.isDigit = true :=
    List.all_eq_true.mpr fun _ hc => Nat.isDigit_of_mem_toDigits (by decide) (by decide) hc
  rw [ofNat, nat?, if_pos hd, Nat.ofDigitChars_ten_toDigits]

theorem optionalText?_ofOptionalText (text : Option String) :
    (ofOptionalText text).optionalText? = some text := by
  cases text <;> rfl

end Value

end Json

section

variable {α : Type} {write : α → Value} {read? : Value → Option α}

/-- What is written as a text is read back from the text, and no two values have one text. -/
def RoundTrips (write : α → Value) (read? : Value → Option α) : Prop :=
  (∀ a, (Value.read? (write a).render).bind read? = some a) ∧
    Function.Injective fun a => (write a).render

theorem roundTrips_of_readable (hw : ∀ a, (write a).Readable) (hr : ∀ a, read? (write a) = some a) :
    RoundTrips write read? := by
  have hb : ∀ a, (Value.read? (write a).render).bind read? = some a := by
    intro a
    rw [Value.read?_render (hw a), Option.bind_some, hr]
  refine ⟨hb, fun a b h => Option.some.inj ?_⟩
  have ht : (write a).render = (write b).render := h
  calc
    some a = (Value.read? (write a).render).bind read? := (hb a).symm
    _ = (Value.read? (write b).render).bind read? := by rw [ht]
    _ = some b := hb b

end

namespace Severity

theorem ofJson?_toJson (s : Severity) : ofJson? s.toJson = some s := s.ofLabel?_label

theorem roundTrips_toJson : RoundTrips toJson ofJson? :=
  roundTrips_of_readable (fun _ => Value.readable_ofText _) ofJson?_toJson

end Severity

namespace Retention

theorem ofJson?_toJson (r : Retention) : ofJson? r.toJson = some r := r.ofLabel?_label

theorem roundTrips_toJson : RoundTrips toJson ofJson? :=
  roundTrips_of_readable (fun _ => Value.readable_ofText _) ofJson?_toJson

end Retention

namespace DiagnosticPrefix

theorem ofJson?_toJson (p : DiagnosticPrefix) : ofJson? p.toJson = some p := by
  cases p <;> rfl

theorem readable_toJson (p : DiagnosticPrefix) : p.toJson.Readable := by
  cases p with
  | bySeverity => exact Value.readable_ofText _
  | custom text => exact Value.readable_ofMembers (by simp [Value.readable_ofText])

theorem roundTrips_toJson : RoundTrips toJson ofJson? :=
  roundTrips_of_readable readable_toJson ofJson?_toJson

end DiagnosticPrefix

namespace Entry

theorem ofJson?_toJson (e : Entry) : ofJson? e.toJson = some e := by
  have hs := Severity.ofJson?_toJson e.severity
  have ho := Value.optionalText?_ofOptionalText e.origin
  simp [ofJson?, toJson, Value.ofMembers, Value.hasNames, Value.member?, ofFields?, hs, ho,
    Value.ofText, Value.text?]

theorem readable_toJson (e : Entry) : e.toJson.Readable :=
  Value.readable_ofMembers (by
    simp [Severity.toJson, Value.readable_ofText, Value.readable_ofOptionalText])

theorem roundTrips_toJson : RoundTrips toJson ofJson? :=
  roundTrips_of_readable readable_toJson ofJson?_toJson

end Entry

namespace HostSettings

theorem capacity?_ofNat (n : UInt64) : capacity? (.ofNat n.toNat) = some n := by
  simp [capacity?, Value.nat?_ofNat, n.toNat_lt_size]

theorem ofJson?_toJson (s : HostSettings) : ofJson? s.toJson = some s := by
  have hl := Value.optionalText?_ofOptionalText s.logPrefix
  have he := Value.optionalText?_ofOptionalText s.errorPrefix
  have hn := capacity?_ofNat s.maxMessages
  have hr := Retention.ofJson?_toJson s.retention
  simp [ofJson?, toJson, Value.ofMembers, Value.hasNames, Value.member?, ofFields?, hl, he, hn, hr]

theorem readable_toJson (s : HostSettings) : s.toJson.Readable :=
  Value.readable_ofMembers (by
    simp [Retention.toJson, Value.readable_ofText, Value.readable_ofOptionalText,
      Value.readable_ofNat])

theorem roundTrips_toJson : RoundTrips toJson ofJson? :=
  roundTrips_of_readable readable_toJson ofJson?_toJson

theorem resolve?_toSettings {σ τ : Type} (find : σ → Option τ) (s : HostSettings) :
    (s.toSettings).resolve? find = some s.toSettings := rfl

end HostSettings

namespace Session

theorem act_load_render (s : Session) (place : Place) (settings : HostSettings) :
    s.act place (.load settings.toJson.render) = s.act place (.configure settings.toSettings) := by
  have h := HostSettings.roundTrips_toJson.1 settings
  simp only [act, h, withSettings, HostSettings.resolve?_toSettings]

/-- Every type that is written as a text round-trips. Loading written host settings is configuring with
them: from every session, at every logger that can be reached, both give one answer and leave one session,
with all that its sinks took in. -/
theorem roundTrips_and_act_load :
    RoundTrips Severity.toJson Severity.ofJson? ∧
    RoundTrips Retention.toJson Retention.ofJson? ∧
    RoundTrips DiagnosticPrefix.toJson DiagnosticPrefix.ofJson? ∧
    RoundTrips Entry.toJson Entry.ofJson? ∧
    RoundTrips HostSettings.toJson HostSettings.ofJson? ∧
    ∀ (s : Session) (place : Place) (settings : HostSettings),
      s.act place (.load settings.toJson.render) =
        s.act place (.configure settings.toSettings) :=
  ⟨Severity.roundTrips_toJson, Retention.roundTrips_toJson, DiagnosticPrefix.roundTrips_toJson,
    Entry.roundTrips_toJson, HostSettings.roundTrips_toJson, act_load_render⟩

end Session

end Logbook
