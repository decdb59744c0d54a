import Logbook.Sink.Writer

namespace Logbook

open Writer (bytes)

namespace Text

def lineFeed : UInt8 := 10

theorem bytes_lineFeed : bytes "\n" = [lineFeed] := by decide

theorem endsLine_eq_true_iff (text : String) : endsLine text = true ↔ ['\n'] <:+ text.toList := by
  rw [endsLine, beq_iff_eq, List.getLast?_eq_some_iff]
  exact ⟨fun ⟨cs, h⟩ => ⟨cs, h.symm⟩, fun ⟨cs, h⟩ => ⟨cs, h.symm⟩⟩

end Text

namespace LineMode

variable (mode : LineMode)

/-- What a text adds to a stream: its bytes, and a line feed where the mode asks for one and the text does
not end in one. -/
def contribution (text : String) : List UInt8 :=
  bytes text ++ if mode = .terminated ∧ ¬ ['\n'] <:+ text.toList then [Text.lineFeed] else []

def stream (texts : List String) : List UInt8 :=
  texts.flatMap mode.contribution

theorem needsTerminator_eq_true_iff (text : String) :
    mode.needsTerminator text = true ↔ mode = .terminated ∧ ¬ ['\n'] <:+ text.toList := by
  rw [← Text.endsLine_eq_true_iff]
  cases mode <;> simp [needsTerminator, terminates]

theorem contribution_eq (text : String) :
    mode.contribution text =
      if mode.needsTerminator text then bytes text ++ bytes "\n" else bytes text := by
  simp only [contribution, needsTerminator_eq_true_iff, Text.bytes_lineFeed]
  split <;> simp

@[simp]
theorem stream_nil : mode.stream [] = [] := rfl

theorem stream_cons (text : String) (rest : List String) :
    mode.stream (text :: rest) = mode.contribution text ++ mode.stream rest := rfl

theorem stream_append (texts more : List String) :
    mode.stream (texts ++ more) = mode.stream texts ++ mode.stream more :=
  List.flatMap_append

end LineMode

namespace Writer

/-- A text that is written, which is answered, or accepted as a sink accepts it. -/
inductive Offer where
  | write (text : String)
  | accept (text : String)

def Offer.text : Offer → String
  | write text => text
  | accept text => text

def offer (w : Writer) : Offer → Writer × Option (Except WriteFault Unit)
  | .write text => ((w.writeText text).1, some (w.writeText text).2)
  | .accept text => (w.accept text, none)

/-- Texts that are offered in turn, each of them whatever became of those before. -/
def offerAll (w : Writer) : List Offer → Writer × List (Option (Except WriteFault Unit))
  | [] => (w, [])
  | o :: rest =>
    let (w, answer) := w.offer o
    let (w, answers) := w.offerAll rest
    (w, answer :: answers)

theorem offerAll_write (w : Writer) (texts : List String) :
    w.offerAll (texts.map .write) = ((w.writeTexts texts).1, (w.writeTexts texts).2.map some) := by
  induction texts generalizing w with
  | nil => rfl
  | cons text rest ih => simp only [List.map_cons, offerAll, offer, ih, writeTexts]

theorem offerAll_accept (w : Writer) (texts : List String) :
    w.offerAll (texts.map .accept) = (w.acceptAll texts, texts.map fun _ => none) := by
  induction texts generalizing w with
  | nil => rfl
  | cons text rest ih =>
    simp only [List.map_cons, offerAll, offer, ih]
    rfl

/-- The stream after it has taken of the data what it has room for. -/
def taking (w : Writer) (data : List UInt8) : Writer :=
  w.advance data (w.accepts data.length)

def Fits (w : Writer) (data : List UInt8) : Prop :=
  w.accepts data.length = data.length

instance (w : Writer) (data : List UInt8) : Decidable (w.Fits data) :=
  inferInstanceAs (Decidable (_ = _))

section

variable (mode : LineMode) (room : Nat) (written data : List UInt8)

@[simp]
theorem taking_unbounded :
    taking ⟨mode, none, written⟩ data = ⟨mode, none, written ++ data⟩ := by
  simp [taking, advance, accepts]

@[simp]
theorem taking_bounded :
    taking ⟨mode, some room, written⟩ data =
      ⟨mode, some (room - data.length), written ++ data.take room⟩ := by
  have hr : room - min room data.length = room - data.length := by omega
  simp [taking, advance, accepts, hr, ← List.take_eq_take_min]

@[simp]
theorem fits_unbounded : Fits ⟨mode, none, written⟩ data := rfl

@[simp]
theorem fits_bounded : Fits ⟨mode, some room, written⟩ data ↔ data.length ≤ room := by
  simp only [Fits, accepts]
  omega

end

section

variable (w : Writer) (data more : List UInt8)

@[simp]
theorem mode_taking : (w.taking data).mode = w.mode := rfl

@[simp]
theorem taking_nil : w.taking [] = w := by
  obtain ⟨mode, room, written⟩ := w
  cases room <;> simp

@[simp]
theorem fits_nil : w.Fits [] := by
  obtain ⟨mode, room, written⟩ := w
  cases room <;> simp

theorem taking_append : (w.taking data).taking more = w.taking (data ++ more) := by
  obtain ⟨mode, room, written⟩ := w
  cases room with
  | none => simp
  | some room =>
    simp [List.take_append]
    omega

theorem fits_append : w.Fits (data ++ more) ↔ w.Fits data ∧ (w.taking data).Fits more := by
  obtain ⟨mode, room, written⟩ := w
  cases room with
  | none => simp
  | some room =>
    simp
    omega

theorem fits_drop_iff :
    (w.taking data).Fits (data.drop (w.accepts data.length)) ↔ w.Fits data := by
  obtain ⟨mode, room, written⟩ := w
  cases room with
  | none => simp
  | some room => simp [accepts]

end

theorem taking_append_of_not_fits {w : Writer} {data : List UInt8} (h : ¬ w.Fits data)
    (more : List UInt8) : w.taking (data ++ more) = w.taking data := by
  obtain ⟨mode, room, written⟩ := w
  cases room with
  | none => simp at h
  | some room =>
    rw [fits_bounded] at h
    have hr : room - data.length = 0 := by omega
    have ha : room - (data.length + more.length) = 0 := by omega
    simp [List.take_append, hr, ha]

variable (w : Writer)

theorem writeAll_eq (data : List UInt8) :
    w.writeAll data = (w.taking data, if w.Fits data then .ok () else .error .closed) := by
  fun_induction writeAll w data with
  | case1 w => rw [taking_nil, if_pos w.fits_nil]
  | case2 w data hd hf =>
    obtain ⟨mode, room, written⟩ := w
    obtain rfl : room = some 0 := by simpa [isFull] using hf
    simp [hd]
  | case3 w data hd hf hlt ih =>
    -- what the first write leaves over finds the stream full, or is nothing
    have ht : (w.taking data).taking (data.drop (w.accepts data.length)) = w.taking data := by
      by_cases h : w.Fits data
      · rw [h, List.drop_length, taking_nil]
      · rw [taking_append, taking_append_of_not_fits h]
    calc
      (w.taking data).writeAll (data.drop (w.accepts data.length)) =
          ((w.taking data).taking (data.drop (w.accepts data.length)),
            if (w.taking data).Fits (data.drop (w.accepts data.length)) then .ok ()
            else .error .closed) := ih
      _ = _ := by simp only [ht, fits_drop_iff]

theorem writeText_eq (text : String) :
    w.writeText text =
      (w.taking (w.mode.contribution text),
        if w.Fits (w.mode.contribution text) then .ok () else .error .closed) := by
  rw [LineMode.contribution_eq]
  simp only [writeText, writeAll_eq]
  by_cases hf : w.Fits (bytes text)
  · cases hn : w.mode.needsTerminator text <;> simp [hf, hn, taking_append, fits_append]
  · cases hn : w.mode.needsTerminator text <;> simp [hf, fits_append, taking_append_of_not_fits]

theorem offer_fst (o : Offer) : (w.offer o).1 = w.taking (w.mode.contribution o.text) := by
  cases o <;> simp [offer, accept, writeText_eq, Offer.text]

theorem offerAll_fst (offers : List Offer) :
    (w.offerAll offers).1 = w.taking (w.mode.stream (offers.map Offer.text)) := by
  induction offers generalizing w with
  | nil => simp [offerAll]
  | cons o rest ih =>
    simp only [offerAll, ih, offer_fst, mode_taking, taking_append, List.map_cons,
      LineMode.stream_cons]

theorem writeTexts_fst (texts : List String) :
    (w.writeTexts texts).1 = w.taking (w.mode.stream texts) := by
  have h := congrArg Prod.fst (w.offerAll_write texts)
  rw [offerAll_fst, List.map_map] at h
  simpa [Function.comp_def, Offer.text] using h.symm

theorem acceptAll_eq (texts : List String) :
    w.acceptAll texts = w.taking (w.mode.stream texts) := by
  have h := congrArg Prod.fst (w.offerAll_accept texts)
  rw [offerAll_fst, List.map_map] at h
  simpa [Function.comp_def, Offer.text] using h.symm

theorem offerAll_snd (offers : List Offer) (i : Nat) :
    (w.offerAll offers).2[i]? =
      offers[i]?.map fun o => ((w.offerAll (offers.take i)).1.offer o).2 := by
  induction offers generalizing w i with
  | nil => simp [offerAll]
  | cons o rest ih =>
    cases i with
    | zero => simp [offerAll]
    | succ i => simp [offerAll, ih]

/-- The answer that is due to an offer, where the stream has room for `room` bytes and what is written up
to the end of its text is `sent` bytes. -/
def Offer.due (mode : LineMode) (room sent : Nat) : Offer → Option (Except WriteFault Unit)
  | .write text =>
    some (if mode.contribution text = [] ∨ sent ≤ room then .ok () else .error .closed)
  | .accept _ => none

section

variable (mode : LineMode) (room : Nat) (before : List UInt8)

theorem offer_taking_snd (sent : List UInt8) (o : Offer) :
    ((taking ⟨mode, some room, before⟩ sent).offer o).2 =
      o.due mode room (sent ++ mode.contribution o.text).length := by
  cases o with
  | accept text => rfl
  | write text =>
    have hf : (mode.contribution text).length ≤ room - sent.length ↔
        mode.contribution text = [] ∨
          sent.length + (mode.contribution text).length ≤ room := by
      rw [← List.length_eq_zero_iff]
      omega
    simp [offer, writeText_eq, Offer.due, Offer.text, hf]

/-- Offered texts in any mixture fill the stream with the beginning of what they all add to it. A text is
written without a fault if it adds nothing or the stream has room for everything up to its end.
Flushing fails once the room is used up. Accepting is never answered and writes the same. -/
theorem offerAll_of_room (offers : List Offer) :
    let stream := fun n => mode.stream ((offers.take n).map Offer.text)
    let out := offerAll ⟨mode, some room, before⟩ offers
    out.1.written = before ++ (stream offers.length).take room ∧
      (∀ i, out.2[i]? = offers[i]?.map (Offer.due mode room (stream (i + 1)).length)) ∧
      (out.1.flush = .error .closed ↔ room ≤ (stream offers.length).length) ∧
      ∀ texts, acceptAll ⟨mode, some room, before⟩ texts =
        (writeTexts ⟨mode, some room, before⟩ texts).1 := by
  intro stream out
  have hs : stream offers.length = mode.stream (offers.map Offer.text) := by
    simp only [stream, List.take_length]
  have ho : out.1 = taking ⟨mode, some room, before⟩ (stream offers.length) := by
    rw [hs]
    exact offerAll_fst _ offers
  refine ⟨?_, ?_, ?_, ?_⟩
  · simp [ho]
  · intro i
    have ha : out.2[i]? = offers[i]?.map fun o =>
        ((taking ⟨mode, some room, before⟩ (stream i)).offer o).2 := by
      rw [offerAll_snd, offerAll_fst]
    rw [ha]
    cases hi : offers[i]? with
    | none => rfl
    | some o =>
      have hn : stream (i + 1) = stream i ++ mode.contribution o.text := by
        simp [stream, List.take_add_one, hi, LineMode.stream_append, LineMode.stream_cons]
      rw [hn]
      exact congrArg some (offer_taking_snd mode room before (stream i) o)
  · have hf : room - (stream offers.length).length = 0 ↔
        room ≤ (stream offers.length).length := by
      omega
    simp [ho, flush, isFull, hf]
  · intro texts
    rw [acceptAll_eq, writeTexts_fst]

end

end Writer

end Logbook
