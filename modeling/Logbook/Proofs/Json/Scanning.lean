import Logbook.Proofs.Json.Layout
import Mathlib.Data.List.TakeWhile

/-!
A text is scanned as the tokens that are laid out in it. A word or a number ends only with the blank or
the mark behind it, so what is said of a scan is what it would finish with.
-/

namespace Logbook.Json

/-- The characters are scanned as the tokens, wherever a token may start. -/
def Scans (cs : List Char) (ts : List Token) : Prop :=
  ∀ us, ∃ s, cs.foldlM Scan.step ⟨.between, us⟩ = some s ∧ s.finish = some (us.reverse ++ ts)

/-- The characters are scanned as the tokens, and a token may start behind them. -/
def Closes (cs : List Char) (ts : List Token) : Prop :=
  ∀ us, cs.foldlM Scan.step ⟨.between, us⟩ = some ⟨.between, ts.reverse ++ us⟩

theorem scan?_of_scans {cs : List Char} {ts : List Token} (h : Scans cs ts) :
    Token.scan? cs = some ts := by
  obtain ⟨s, hs, hf⟩ := h []
  rw [Token.scan?, Scan.initial, hs]
  exact hf

def isEnd (c : Char) : Bool := isBlank c || (Scan.mark? c).isSome

theorem not_inNumber_of_isEnd {c : Char} (h : isEnd c = true) :
    c.isLower = false ∧ inNumber c = false := by
  obtain h | h := Bool.or_eq_true_iff.mp h
  · simp only [isBlank, Bool.or_eq_true, beq_iff_eq] at h
    obtain ((rfl | rfl) | rfl) | rfl := h <;> exact ⟨rfl, rfl⟩
  · unfold Scan.mark? at h
    split at h
    all_goals first | exact ⟨rfl, rfl⟩ | cases h

theorem step_of_isEnd {s : Scan} {ts : List Token} (hs : s.finish = some ts) {c : Char}
    (hc : isEnd c = true) : s.step c = Scan.step ⟨.between, ts.reverse⟩ c := by
  obtain ⟨hword, hnumber⟩ := not_inNumber_of_isEnd hc
  obtain ⟨mode, us⟩ := s
  cases mode with
  | between => rw [← Option.some.inj hs, List.reverse_reverse]
  | word read =>
    obtain ⟨w, hw, rfl⟩ := Option.map_eq_some_iff.mp hs
    simp [Scan.step, hword, hw]
  | number read =>
    obtain ⟨n, hn, rfl⟩ := Option.map_eq_some_iff.mp hs
    simp [Scan.step, hnumber, hn]
  | string | escape | unit => cases hs

section

variable {cs ds : List Char} {ts us : List Token}

theorem Scans.append (hcs : Scans cs ts) (hds : Scans ds us) (he : ∀ c ∈ ds.head?, isEnd c = true) :
    Scans (cs ++ ds) (ts ++ us) := by
  intro vs
  obtain ⟨s, hs, hf⟩ := hcs vs
  obtain ⟨r, hr, hg⟩ := hds (vs.reverse ++ ts).reverse
  rw [List.reverse_reverse, List.append_assoc] at hg
  rw [List.foldlM_append, hs]
  cases ds with
  | nil =>
    cases hr
    refine ⟨s, rfl, ?_⟩
    rw [hf, ← hg, Scan.finish, List.reverse_reverse]
  | cons c ds =>
    refine ⟨r, ?_, hg⟩
    rw [Option.bind_eq_bind, Option.bind_some, List.foldlM_cons, step_of_isEnd hf (he c rfl)]
    exact hr

theorem Closes.append (hcs : Closes cs ts) (hds : Scans ds us) : Scans (cs ++ ds) (ts ++ us) := by
  intro vs
  obtain ⟨r, hr, hg⟩ := hds (ts.reverse ++ vs)
  refine ⟨r, ?_, by simpa using hg⟩
  rw [List.foldlM_append, hcs]
  exact hr

end

theorem scans_nil : Scans [] [] := fun us => ⟨⟨.between, us⟩, rfl, by simp [Scan.finish]⟩

theorem closes_blanks {bs : List Char} (h : ∀ b ∈ bs, isBlank b = true) : Closes bs [] := by
  intro us
  induction bs with
  | nil => rfl
  | cons b bs ih =>
    obtain ⟨hb, hbs⟩ := List.forall_mem_cons.mp h
    have hs : Scan.step ⟨.between, us⟩ b = some ⟨.between, us⟩ := by simp [Scan.step, Scan.start, hb]
    rw [List.foldlM_cons, hs]
    exact ih hbs

theorem closes_mark {c : Char} {t : Token} (h : Scan.mark? c = some t) : Closes [c] [t] := by
  unfold Scan.mark? at h
  split at h <;> cases h <;> exact fun _ => rfl

theorem scans_word {cs : List Char} {t : Token} (h : word? cs = some t) : Scans cs [t] := by
  intro us
  unfold word? at h
  split at h <;> cases h <;> exact ⟨_, rfl, by simp [Scan.finish, word?]⟩

theorem foldlM_piece {p : Piece} {cs : List Char} (h : p.Spelled cs) (read : List Piece)
    (us : List Token) : cs.foldlM Scan.step ⟨.string read, us⟩ = some ⟨.string (p :: read), us⟩ := by
  cases h with
  | plain hq hb hc => simp [Scan.step, hq, hb, hc]
  | @letter c e he =>
    have hu : c ≠ 'u' := by
      rintro rfl
      cases he
    simp [Scan.step, hu, he]
  | digits hc =>
    simp only [codeUnit?, List.foldlM_cons, List.foldlM_nil, Option.bind_eq_bind,
      Option.bind_eq_some_iff, Option.map_eq_some_iff] at hc
    obtain ⟨_, ⟨i, hi, rfl⟩, _, ⟨j, hj, rfl⟩, _, ⟨k, hk, rfl⟩, _, ⟨l, hl, rfl⟩, he⟩ := hc
    cases he
    simp [Scan.step, hi, hj, hk, hl]

theorem foldlM_pieces {ps : List Piece} {cs : List Char} (h : Pieces.Spelled ps cs) (read : List Piece)
    (us : List Token) :
    cs.foldlM Scan.step ⟨.string read, us⟩ = some ⟨.string (ps.reverse ++ read), us⟩ := by
  induction h generalizing read with
  | nil => rfl
  | cons hp _ ih =>
    rw [List.foldlM_append, foldlM_piece hp]
    simpa using ih (_ :: read)

theorem closes_string {ps : List Piece} {cs : List Char} (h : Pieces.Spelled ps cs) :
    Closes ('"' :: (cs ++ ['"'])) [.string ps] := by
  intro us
  have hq : Scan.step ⟨.between, us⟩ '"' = some ⟨.string [], us⟩ := rfl
  have he : Scan.step ⟨.string ps.reverse, us⟩ '"' = some ⟨.between, .string ps :: us⟩ := by
    simp [Scan.step]
  rw [List.foldlM_cons, hq]
  simp [foldlM_pieces h, he]

section

variable {cs : List Char}

theorem inNumber_of_isDigit {c : Char} (h : c.isDigit = true) : inNumber c = true := by
  simp [inNumber, h]

theorem inNumber_of_dropWhile (h : ∀ c ∈ cs.dropWhile Char.isDigit, inNumber c = true) :
    ∀ c ∈ cs, inNumber c = true := by
  intro c hc
  rw [← List.takeWhile_append_dropWhile (p := Char.isDigit) (l := cs)] at hc
  obtain ht | hd := List.mem_append.mp hc
  · exact inNumber_of_isDigit (List.mem_takeWhile_imp ht)
  · exact h c hd

theorem inNumber_of_isExponent (h : isExponent cs = true) : ∀ c ∈ cs, inNumber c = true := by
  unfold isExponent at h
  split at h
  · exact fun c hc => absurd hc List.not_mem_nil
  · next e rest =>
    simp only [Bool.and_eq_true, List.all_eq_true] at h
    obtain ⟨⟨he, -⟩, hd⟩ := h
    have hr : ∀ c ∈ rest, inNumber c = true := by
      split at hd
      · exact List.forall_mem_cons.mpr ⟨rfl, fun c hc => inNumber_of_isDigit (hd c hc)⟩
      · exact List.forall_mem_cons.mpr ⟨rfl, fun c hc => inNumber_of_isDigit (hd c hc)⟩
      · exact fun c hc => inNumber_of_isDigit (hd c hc)
    apply List.forall_mem_cons.mpr ⟨_, hr⟩
    obtain he | he := Bool.or_eq_true_iff.mp he <;> simp [inNumber, he]

theorem inNumber_of_isFraction (h : isFraction cs = true) : ∀ c ∈ cs, inNumber c = true := by
  unfold isFraction at h
  split at h
  · next d rest =>
    obtain ⟨hd, he⟩ := Bool.and_eq_true_iff.mp h
    have hr := inNumber_of_dropWhile (inNumber_of_isExponent he)
    exact List.forall_mem_cons.mpr ⟨rfl, List.forall_mem_cons.mpr ⟨inNumber_of_isDigit hd, hr⟩⟩
  · exact inNumber_of_isExponent h

theorem exists_cons_of_isUnsigned (h : isUnsigned cs = true) :
    ∃ c rest, cs = c :: rest ∧ c.isDigit = true ∧ ∀ d ∈ rest, inNumber d = true := by
  unfold isUnsigned at h
  split at h
  · cases h
  · exact ⟨_, _, rfl, rfl, inNumber_of_isFraction h⟩
  · obtain ⟨hd, hf⟩ := Bool.and_eq_true_iff.mp h
    exact ⟨_, _, rfl, hd, inNumber_of_dropWhile (inNumber_of_isFraction hf)⟩

theorem exists_cons_of_isNumber (h : isNumber cs = true) :
    ∃ c rest, cs = c :: rest ∧ (c.isDigit || c == '-') = true ∧ ∀ d ∈ rest, inNumber d = true := by
  unfold isNumber at h
  split at h
  · obtain ⟨c, rest, rfl, hd, hr⟩ := exists_cons_of_isUnsigned h
    exact ⟨_, _, rfl, rfl, List.forall_mem_cons.mpr ⟨inNumber_of_isDigit hd, hr⟩⟩
  · obtain ⟨c, rest, rfl, hd, hr⟩ := exists_cons_of_isUnsigned h
    exact ⟨_, _, rfl, Bool.or_eq_true_iff.mpr (.inl hd), hr⟩

theorem start_number {c : Char} (h : (c.isDigit || c == '-') = true) (us : List Token) :
    Scan.start us c = some ⟨.number [c], us⟩ := by
  have hne : ∀ d : Char, (d.isDigit || d == '-') = false → (c == d) = false := by
    intro d hd
    apply beq_false_of_ne
    rintro rfl
    exact Bool.false_ne_true (hd.symm.trans h)
  have hb : isBlank c = false := by
    simp only [isBlank, hne ' ' rfl, hne '\t' rfl, hne '\n' rfl, hne '\r' rfl, Bool.or_self]
  have hl : c.isLower = false := by
    obtain hd | hm := Bool.or_eq_true_iff.mp h
    · have h9 : c.toNat ≤ 57 := (Char.isDigit_iff_toNat.mp hd).2
      apply Bool.eq_false_iff.mpr
      intro hlower
      have ha : 97 ≤ c.toNat :=
        UInt32.le_iff_toNat_le.mp (of_decide_eq_true (Bool.and_eq_true_iff.mp hlower).1)
      omega
    · rw [eq_of_beq hm]
      rfl
  simp only [Scan.start, hb, hne '"' rfl, hl, h, Bool.false_eq_true, if_false, if_true]

end

theorem scans_number {literal : List Char} (h : isNumber literal = true) :
    Scans literal [.number literal] := by
  obtain ⟨c, rest, rfl, hc, hr⟩ := exists_cons_of_isNumber h
  intro us
  have hf : ∀ (cs read : List Char), (∀ d ∈ cs, inNumber d = true) →
      cs.foldlM Scan.step ⟨.number read, us⟩ = some ⟨.number (cs.reverse ++ read), us⟩ := by
    intro cs
    induction cs with
    | nil => exact fun _ _ => rfl
    | cons d cs ih =>
      intro read hd
      obtain ⟨h0, hcs⟩ := List.forall_mem_cons.mp hd
      simp [Scan.step, h0, ih _ hcs]
  refine ⟨⟨.number (rest.reverse ++ [c]), us⟩, ?_, ?_⟩
  · have hs : Scan.step ⟨.between, us⟩ c = some ⟨.number [c], us⟩ := start_number hc us
    simp [hs, hf rest [c] hr]
  · simp [Scan.finish, number?, h]

section

variable {t : Token} {ts : List Token} {cs : List Char}

theorem isMark_of_word? (h : word? cs = some t) : t.isMark = false := by
  unfold word? at h
  split at h <;> cases h <;> rfl

theorem Token.Spelled.exists_mark (h : t.Spelled cs) (hm : t.isMark = true) :
    ∃ c, cs = [c] ∧ Scan.mark? c = some t := by
  cases h with
  | mark hc => exact ⟨_, rfl, hc⟩
  | word hw => exact absurd hm (by simp [isMark_of_word? hw])
  | number | string => cases hm

theorem LaidOut.isEnd_of_mem_head? (h : LaidOut ts cs) (hm : ∀ t ∈ ts.head?, t.isMark = true) :
    ∀ c ∈ cs.head?, isEnd c = true := by
  have hblank : ∀ b, isBlank b = true → isEnd b = true := fun b hb => Bool.or_eq_true_iff.mpr (.inl hb)
  intro c hc
  cases h with
  | blanks hbs => exact hblank c (hbs c (List.mem_of_mem_head? hc))
  | @token bs _ _ _ _ hbs ht h =>
    cases bs with
    | nil =>
      obtain ⟨m, rfl, hmark⟩ := ht.exists_mark (hm _ rfl)
      cases hc
      simp [isEnd, hmark]
    | cons b bs =>
      cases hc
      exact hblank _ (hbs _ List.mem_cons_self)

theorem LaidOut.scans (h : LaidOut ts cs) (hs : Separated ts) : Scans cs ts := by
  induction h with
  | blanks hbs => simpa using (closes_blanks hbs).append scans_nil
  | @token _ t _ _ _ hbs ht h ih =>
    obtain ⟨hm, hs⟩ := List.isChain_cons.mp hs
    have hds := ih hs
    -- a word or a number is no mark, so that a mark or a blank follows it
    have he (hf : t.isMark = false) := h.isEnd_of_mem_head? fun u hu =>
      (hm u hu).resolve_left (by simp [hf])
    apply (closes_blanks hbs).append
    cases ht with
    | mark hc => exact (closes_mark hc).append hds
    | word hw => exact (scans_word hw).append hds (he (isMark_of_word? hw))
    | number hn => exact (scans_number hn).append hds (he rfl)
    | string hp => exact (closes_string hp).append hds

end

namespace Scan

variable {s r : Scan} {cs : List Char} {c : Char}

def Follows (s : Scan) (cs : List Char) : Prop :=
  match s.mode with
  | .between => LaidOut s.tokens.reverse cs
  | .word read | .number read => ∃ ds, cs = ds ++ read.reverse ∧ LaidOut s.tokens.reverse ds
  | .string read => ∃ ds es, cs = ds ++ '"' :: es ∧ LaidOut s.tokens.reverse ds ∧
      Pieces.Spelled read.reverse es
  | .escape read => ∃ ds es, cs = ds ++ '"' :: (es ++ ['\\']) ∧ LaidOut s.tokens.reverse ds ∧
      Pieces.Spelled read.reverse es
  | .unit read digits code => ∃ ds es fs, cs = ds ++ '"' :: (es ++ '\\' :: 'u' :: fs) ∧
      LaidOut s.tokens.reverse ds ∧ Pieces.Spelled read.reverse es ∧ fs.length = digits ∧
      codeUnit? fs = some code

theorem follows_start {us : List Token} (h : LaidOut us.reverse cs) (hs : start us c = some s) :
    s.Follows (cs ++ [c]) := by
  unfold start at hs
  split at hs
  · next hb =>
    cases hs
    simpa [Follows] using h.append (.blanks (List.forall_mem_singleton.mpr hb))
  split at hs
  · next hq =>
    cases hs
    exact ⟨cs, [], by rw [eq_of_beq hq], h, .nil⟩
  split at hs
  · cases hs
    exact ⟨cs, rfl, h⟩
  split at hs
  · cases hs
    exact ⟨cs, rfl, h⟩
  · obtain ⟨t, ht, rfl⟩ := Option.map_eq_some_iff.mp hs
    simpa [Follows] using h.concat (.mark ht)

theorem spelled_of_number? {t : Token} (h : number? cs = some t) : t.Spelled cs := by
  unfold number? at h
  split at h
  · next hn =>
    cases h
    exact .number hn
  · cases h

theorem follows_piece {us : List Token} {read : List Piece} {p : Piece} {ds es fs : List Char}
    (h : LaidOut us.reverse ds) (hr : Pieces.Spelled read.reverse es) (hp : p.Spelled fs) :
    Follows ⟨.string (p :: read), us⟩ (ds ++ '"' :: (es ++ fs)) :=
  ⟨ds, es ++ fs, rfl, h, by simpa using hr.concat hp⟩

theorem follows_step (h : s.Follows cs) (hs : s.step c = some r) : r.Follows (cs ++ [c]) := by
  obtain ⟨mode, us⟩ := s
  cases mode with
  | between => exact follows_start h hs
  | word read =>
    -- the character goes on with the word, or the word ends and it begins the next token
    obtain ⟨ds, rfl, h⟩ := h
    simp only [step] at hs
    split at hs
    · cases hs
      exact ⟨ds, by simp, h⟩
    · obtain ⟨t, ht, hs⟩ := Option.bind_eq_some_iff.mp hs
      exact follows_start (by simpa using h.concat (.word ht)) hs
  | number read =>
    obtain ⟨ds, rfl, h⟩ := h
    simp only [step] at hs
    split at hs
    · cases hs
      exact ⟨ds, by simp, h⟩
    · obtain ⟨t, ht, hs⟩ := Option.bind_eq_some_iff.mp hs
      exact follows_start (by simpa using h.concat (spelled_of_number? ht)) hs
  | string read =>
    obtain ⟨ds, es, rfl, h, hp⟩ := h
    simp only [step] at hs
    split at hs
    · next hq =>
      cases hs
      rw [eq_of_beq hq]
      simpa [Follows] using h.concat (.string hp)
    split at hs
    · next hb =>
      cases hs
      rw [eq_of_beq hb]
      exact ⟨ds, es, by simp, h, hp⟩
    split at hs
    · cases hs
    · next hq hb hc =>
      cases hs
      have hs : Piece.Spelled (.char c) [c] := .plain (by simpa using hq) (by simpa using hb) hc
      simpa using follows_piece h hp hs
  | escape read =>
    obtain ⟨ds, es, rfl, h, hp⟩ := h
    simp only [step] at hs
    split at hs
    · next hu =>
      cases hs
      rw [eq_of_beq hu]
      exact ⟨ds, es, [], by simp, h, hp, rfl, rfl⟩
    · obtain ⟨e, he, rfl⟩ := Option.map_eq_some_iff.mp hs
      simpa using follows_piece h hp (.letter he)
  | unit read digits code =>
    obtain ⟨ds, es, fs, rfl, h, hp, hl, hc⟩ := h
    obtain ⟨d, hd, rfl⟩ := Option.map_eq_some_iff.mp hs
    have hcode : codeUnit? (fs ++ [c]) = some (16 * code + d) := by
      rw [codeUnit?, List.foldlM_append, ← codeUnit?, hc]
      simp [hd]
    split
    · next h3 =>
      subst h3
      obtain ⟨i, j, k, rfl⟩ := List.length_eq_three.mp hl
      simpa using follows_piece h hp (.digits hcode)
    · exact ⟨ds, es, fs ++ [c], by simp, h, hp, by simp [hl], hcode⟩

theorem Follows.laidOut {ts : List Token} (h : s.Follows cs) (hf : s.finish = some ts) :
    LaidOut ts cs := by
  obtain ⟨mode, us⟩ := s
  cases mode with
  | between =>
    cases hf
    exact h
  | word read =>
    obtain ⟨ds, rfl, h⟩ := h
    obtain ⟨t, ht, rfl⟩ := Option.map_eq_some_iff.mp hf
    simpa using h.concat (.word ht)
  | number read =>
    obtain ⟨ds, rfl, h⟩ := h
    obtain ⟨t, ht, rfl⟩ := Option.map_eq_some_iff.mp hf
    simpa using h.concat (spelled_of_number? ht)
  | string | escape | unit => cases hf

end Scan

theorem laidOut_of_scan? {cs : List Char} {ts : List Token} (h : Token.scan? cs = some ts) :
    LaidOut ts cs := by
  obtain ⟨s, hs, hf⟩ := Option.bind_eq_some_iff.mp h
  have hi : Scan.initial.Follows [] := LaidOut.nil
  exact (foldlM_induction Scan.follows_step hi hs).laidOut hf

theorem Value.read?_eq_some_iff {text : String} {v : Value} :
    read? text = some v ↔ v.Written text := by
  constructor
  · intro h
    obtain ⟨ts, hs, hv⟩ := Option.bind_eq_some_iff.mp h
    exact ⟨ts, ofTokens?_eq_some_iff.mp hv, laidOut_of_scan? hs⟩
  · rintro ⟨ts, hf, hl⟩
    rw [read?, scan?_of_scans (hl.scans hf.separated)]
    exact ofTokens?_eq_some_iff.mpr hf

end Logbook.Json
