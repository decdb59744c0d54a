import Logbook.Json.Value

namespace Logbook.Json

theorem foldlM_induction {σ α : Type} {step : σ → α → Option σ} {p : σ → List α → Prop}
    (hp : ∀ {s s' as a}, p s as → step s a = some s' → p s' (as ++ [a])) {s s' : σ} {as bs : List α}
    (h : p s as) (hs : bs.foldlM step s = some s') : p s' (as ++ bs) := by
  induction bs generalizing s as with
  | nil =>
    cases hs
    simpa using h
  | cons b bs ih =>
    rw [List.foldlM_cons] at hs
    obtain ⟨r, hr, hs⟩ := Option.bind_eq_some_iff.mp hs
    simpa using ih (hp h hr) hs

/-- What a row of tokens may be: a value, the items of an array or the members of an object. -/
inductive Phrase where
  | value (v : Value)
  | items (vs : List Value)
  | members (ms : List (Option String × Value))

/-- Brackets hold nothing or a row with a comma between any two, and none behind the last. -/
inductive Phrase.Formed : Phrase → List Token → Prop
  | null : Formed (.value .null) [.null]
  | bool (b : Bool) : Formed (.value (.bool b)) [.bool b]
  | number (literal : List Char) : Formed (.value (.number literal)) [.number literal]
  | string (pieces : List Piece) : Formed (.value (.string (Piece.text? pieces))) [.string pieces]
  | emptyArray : Formed (.value (.array [])) [.openArray, .closeArray]
  | array {vs ts} : Formed (.items vs) ts →
      Formed (.value (.array vs)) (.openArray :: (ts ++ [.closeArray]))
  | emptyObject : Formed (.value (.object [])) [.openObject, .closeObject]
  | object {ms ts} : Formed (.members ms) ts →
      Formed (.value (.object ms)) (.openObject :: (ts ++ [.closeObject]))
  | item {v ts} : Formed (.value v) ts → Formed (.items [v]) ts
  | items {v vs ts us} : Formed (.value v) ts → Formed (.items vs) us →
      Formed (.items (v :: vs)) (ts ++ .comma :: us)
  | member (name : List Piece) {v ts} : Formed (.value v) ts →
      Formed (.members [(Piece.text? name, v)]) (.string name :: .colon :: ts)
  | members (name : List Piece) {v ms ts us} : Formed (.value v) ts → Formed (.members ms) us →
      Formed (.members ((Piece.text? name, v) :: ms)) (.string name :: .colon :: (ts ++ .comma :: us))

namespace Phrase

variable {p : Phrase} {ts : List Token}

theorem Formed.exists_cons (h : p.Formed ts) : ∃ t us, ts = t :: us ∧ t ≠ .closeArray := by
  induction h with
  | item _ ih => exact ih
  | items _ _ ih _ =>
    obtain ⟨t, us, rfl, ht⟩ := ih
    exact ⟨t, _, rfl, ht⟩
  | _ => exact ⟨_, _, rfl, Token.noConfusion⟩

theorem Formed.foldlM_firstItem (h : p.Formed ts) (us : List Token) (frames : List Frame) :
    (ts ++ us).foldlM Build.step (.firstItem frames) =
      (ts ++ us).foldlM Build.step (.value (.array [] :: frames)) := by
  obtain ⟨t, vs, rfl, ht⟩ := h.exists_cons
  have hs : Build.step (.firstItem frames) t = Build.step (.value (.array [] :: frames)) t := by
    cases t with
    | closeArray => exact absurd rfl ht
    | _ => rfl
  rw [List.cons_append, List.foldlM_cons, hs, ← List.foldlM_cons]

theorem Formed.foldlM_firstName {ms : List (Option String × Value)} (h : Formed (.members ms) ts)
    (us : List Token) (frames : List Frame) :
    (ts ++ us).foldlM Build.step (.firstName frames) =
      (ts ++ us).foldlM Build.step (.nextName [] frames) := by
  cases h <;> rfl

/-- What building makes of the tokens of a phrase, whatever is open around it. -/
def Builds : Phrase → List Token → Prop
  | .value v, ts => ∀ frames, ts.foldlM Build.step (.value frames) = some (.after v frames)
  | .items vs, ts => ∀ done frames,
      (ts ++ [Token.closeArray]).foldlM Build.step (.value (.array done :: frames)) =
        some (.after (.array (done.reverse ++ vs)) frames)
  | .members ms, ts => ∀ done frames,
      (ts ++ [Token.closeObject]).foldlM Build.step (.nextName done frames) =
        some (.after (.object (done.reverse ++ ms)) frames)

theorem Formed.builds (h : p.Formed ts) : p.Builds ts := by
  induction h with
  | null | bool | number | string | emptyArray | emptyObject => exact fun _ => rfl
  | array h ih =>
    -- no item starts like the end of an array, so the first is built like any other
    intro frames
    have hs := ih [] frames
    rwa [← h.foldlM_firstItem] at hs
  | object h ih =>
    intro frames
    have hs := ih [] frames
    rwa [← h.foldlM_firstName] at hs
  | item _ ih =>
    intro done frames
    rw [List.foldlM_append, ih]
    simp [Build.step]
  | items _ _ ih ih' =>
    intro done frames
    rw [List.append_assoc, List.foldlM_append, ih]
    simpa [Build.step] using ih' (_ :: done) frames
  | member name _ ih =>
    intro done frames
    have hv := ih (.object done (Piece.text? name) :: frames)
    simp [Build.step, hv]
  | members name _ _ ih ih' =>
    intro done frames
    have hv := ih (.object done (Piece.text? name) :: frames)
    simpa [Build.step, hv] using ih' ((Piece.text? name, _) :: done) frames

section

variable {v : Value} {us : List Token}

theorem Formed.items_concat {vs : List Value} (h : Formed (.items vs) ts)
    (hv : Formed (.value v) us) : Formed (.items (vs ++ [v])) (ts ++ .comma :: us) := by
  induction vs generalizing ts with
  | nil => cases h
  | cons w vs ih =>
    cases h with
    | item hw => exact .items hw (.item hv)
    | items hw h =>
      simpa using Formed.items hw (ih h)

theorem Formed.members_concat {ms : List (Option String × Value)} (h : Formed (.members ms) ts)
    (name : List Piece) (hv : Formed (.value v) us) :
    Formed (.members (ms ++ [(Piece.text? name, v)])) (ts ++ .comma :: .string name :: .colon :: us) := by
  induction ms generalizing ts with
  | nil => cases h
  | cons m ms ih =>
    cases h with
    | member n hw => exact .members n hw (.member name hv)
    | members n hw h =>
      simpa using Formed.members n hw (ih h)

end

end Phrase

open Phrase (Formed)

/-- The tokens behind which the frames are open. An open container holds nothing yet, or what it holds
ends with a comma. -/
inductive Opens : List Token → List Frame → Prop
  | nil : Opens [] []
  | array {ts frames} : Opens ts frames → Opens (ts ++ [.openArray]) (.array [] :: frames)
  | items {ts frames vs us} : Opens ts frames → Formed (.items vs) us →
      Opens (ts ++ .openArray :: (us ++ [.comma])) (.array vs.reverse :: frames)
  | object (name : List Piece) {ts frames} : Opens ts frames →
      Opens (ts ++ [.openObject, .string name, .colon]) (.object [] (Piece.text? name) :: frames)
  | members (name : List Piece) {ts frames ms us} : Opens ts frames → Formed (.members ms) us →
      Opens (ts ++ .openObject :: (us ++ [.comma, .string name, .colon]))
        (.object ms.reverse (Piece.text? name) :: frames)

namespace Build

variable {ts : List Token} {frames : List Frame}

def Follows : Build → List Token → Prop
  | .value frames, ts => Opens ts frames
  | .firstItem frames, ts => ∃ us, ts = us ++ [.openArray] ∧ Opens us frames
  | .firstName frames, ts => ∃ us, ts = us ++ [.openObject] ∧ Opens us frames
  | .nextName ms frames, ts => ∃ us vs, ts = us ++ .openObject :: (vs ++ [.comma]) ∧ Opens us frames ∧
      Formed (.members ms.reverse) vs
  | .colon ms name frames, ts => Opens (ts ++ [.colon]) (.object ms name :: frames)
  | .after v frames, ts => ∃ us vs, ts = us ++ vs ∧ Opens us frames ∧ Formed (.value v) vs

theorem follows_start {t : Token} {b : Build} (h : Opens ts frames)
    (hb : start frames t = some b) : b.Follows (ts ++ [t]) := by
  cases t with
  | null =>
    cases hb
    exact ⟨ts, _, rfl, h, .null⟩
  | bool =>
    cases hb
    exact ⟨ts, _, rfl, h, .bool _⟩
  | number =>
    cases hb
    exact ⟨ts, _, rfl, h, .number _⟩
  | string =>
    cases hb
    exact ⟨ts, _, rfl, h, .string _⟩
  | openArray | openObject =>
    cases hb
    exact ⟨ts, rfl, h⟩
  | closeObject | closeArray | colon | comma => cases hb

theorem exists_items {items : List Value} {v : Value} {us : List Token}
    (h : Opens ts (.array items :: frames)) (hv : Formed (.value v) us) :
    ∃ vs ws, ts ++ us = vs ++ .openArray :: ws ∧ Opens vs frames ∧
      Formed (.items (v :: items).reverse) ws := by
  cases h with
  | array h => exact ⟨_, us, by simp, h, .item hv⟩
  | @items _ _ _ ws h hi =>
    exact ⟨_, ws ++ .comma :: us, by simp, h, by simpa using hi.items_concat hv⟩

theorem exists_members {ms : List (Option String × Value)} {name : Option String} {v : Value}
    {us : List Token} (h : Opens ts (.object ms name :: frames)) (hv : Formed (.value v) us) :
    ∃ vs ws, ts ++ us = vs ++ .openObject :: ws ∧ Opens vs frames ∧
      Formed (.members ((name, v) :: ms).reverse) ws := by
  cases h with
  | object name h => exact ⟨_, _, by simp, h, .member name hv⟩
  | @members name _ _ _ ws h hm =>
    exact ⟨_, ws ++ .comma :: .string name :: .colon :: us, by simp, h,
      by simpa using hm.members_concat name hv⟩

theorem follows_step {b b' : Build} {t : Token} (h : b.Follows ts) (hb : b.step t = some b') :
    b'.Follows (ts ++ [t]) := by
  cases b with
  | value frames => exact follows_start h hb
  | firstItem frames =>
    obtain ⟨us, rfl, h⟩ := h
    cases t with
    | closeArray =>
      cases hb
      exact ⟨us, _, by simp, h, .emptyArray⟩
    | _ => exact follows_start h.array hb
  | firstName frames =>
    obtain ⟨us, rfl, h⟩ := h
    cases t with
    | closeObject =>
      cases hb
      exact ⟨us, _, by simp, h, .emptyObject⟩
    | string name =>
      cases hb
      simpa [Follows] using h.object name
    | _ => cases hb
  | nextName ms frames =>
    obtain ⟨us, vs, rfl, h, hm⟩ := h
    cases t with
    | string name =>
      cases hb
      simpa [Follows] using h.members name hm
    | _ => cases hb
  | colon ms name frames =>
    cases t with
    | colon =>
      cases hb
      exact h
    | _ => cases hb
  | after v frames =>
    -- a value is complete, so it is what the text is read as or goes to the frame around it
    obtain ⟨us, vs, rfl, h, hv⟩ := h
    cases frames with
    | nil => cases t <;> cases hb
    | cons frame frames =>
      cases frame with
      | array items =>
        obtain ⟨ws, xs, he, h, hi⟩ := exists_items h hv
        cases t with
        | comma =>
          cases hb
          simpa [Follows, he] using h.items hi
        | closeArray =>
          cases hb
          exact ⟨ws, _, by simp [he], h, .array hi⟩
        | _ => cases hb
      | object ms name =>
        obtain ⟨ws, xs, he, h, hm⟩ := exists_members h hv
        cases t with
        | comma =>
          cases hb
          exact ⟨ws, xs, by simp [he], h, by simpa using hm⟩
        | closeObject =>
          cases hb
          exact ⟨ws, _, by simp [he], h, .object hm⟩
        | _ => cases hb

end Build

theorem Value.ofTokens?_eq_some_iff {ts : List Token} {v : Value} :
    ofTokens? ts = some v ↔ Formed (.value v) ts := by
  constructor
  · intro h
    obtain ⟨b, hb, hf⟩ := Option.bind_eq_some_iff.mp h
    have ho : (Build.value []).Follows [] := Opens.nil
    have hs : b.Follows ts := foldlM_induction Build.follows_step ho hb
    unfold Build.finish at hf
    split at hf
    · cases hf
      obtain ⟨us, vs, rfl, h, hv⟩ := hs
      cases h
      exact hv
    · cases hf
  · intro h
    rw [ofTokens?, h.builds []]
    rfl

end Logbook.Json
