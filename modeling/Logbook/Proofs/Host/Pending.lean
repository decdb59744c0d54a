import Logbook.Proofs.Host.Running

namespace Logbook

theorem Device.pendingTotal_modify {ds : List Device} {d : Device} {number : Nat}
    (hd : ds[number]? = some d) (f : Device → Device) :
    pendingTotal (ds.modify number f) + d.pendingCount =
      pendingTotal ds + (f d).pendingCount := by
  induction ds generalizing number with
  | nil => cases hd
  | cons e rest ih =>
    cases number with
    | zero =>
      obtain rfl : e = d := Option.some.inj hd
      simp only [List.modify_zero_cons, pendingTotal]
      omega
    | succ number =>
      have hr := ih (show rest[number]? = some d from hd)
      simp only [List.modify_succ_cons, pendingTotal]
      omega

namespace Host

theorem pendingCount_put (h : Host) (d : Delivery) : (h.put d).pendingCount = h.pendingCount := by
  rw [put]
  cases d.sink with
  | output | errors => rfl
  | device number =>
    show Device.pendingTotal (h.devices.modify number _) = Device.pendingTotal h.devices
    cases hd : h.devices[number]? with
    | none => rw [List.modify_eq_self (List.getElem?_eq_none_iff.mp hd)]
    | some x =>
      have ht := Device.pendingTotal_modify hd (Device.accept d.text)
      rw [Device.pendingCount_accept] at ht
      exact Nat.add_right_cancel ht

theorem pendingCount_of_react? {g h : Host} {s : Sink} {r : Reaction}
    (hr : g.react? s = some (r, h)) : g.pendingCount = h.pendingCount + 1 := by
  cases s with
  | output | errors => cases hr
  | device number =>
    obtain ⟨⟨r', e⟩, hb, he⟩ := Option.map_eq_some_iff.mp hr
    obtain ⟨rfl, rfl⟩ := Prod.mk.inj he
    obtain ⟨d, hd, hx⟩ := Option.bind_eq_some_iff.mp hb
    have ht := Device.pendingTotal_modify hd fun _ => e
    rw [Device.pendingCount_of_react? hx] at ht
    simp only [pendingCount, onDevice]
    omega

/-- A host to which actions lead from another one: no reaction is added, and the ambient logger is
given back as it was found. -/
structure Later (g h : Host) : Prop where
  borrowed : h.borrowed = g.borrowed
  pendingCount_le : h.pendingCount ≤ g.pendingCount

theorem steady_later : Steady Later where
  refl _ := ⟨rfl, Nat.le_refl _⟩
  trans hf hg := ⟨hg.borrowed.trans hf.borrowed, Nat.le_trans hg.pendingCount_le hf.pendingCount_le⟩
  borrowed hg := hg.borrowed
  put h d := ⟨(h.untouched_put d).borrowed, Nat.le_of_eq (h.pendingCount_put d)⟩
  react hr := by
    refine ⟨(untouched_react hr).borrowed, ?_⟩
    rw [pendingCount_of_react? hr]
    exact Nat.le_succ _
  request _ _ _ := ⟨rfl, Nat.le_refl _⟩

section

variable {one two : Delivery → Host → Outcome Unit} {bound : Nat}
  (ho : ∀ d h, (one d h).Along Later h)
  (hs : ∀ d h, h.pendingCount ≤ bound → one d h = two d h)

include ho hs

theorem deliverAll_congr (ds : List Delivery) {h : Host} (hb : h.pendingCount ≤ bound) :
    deliverAll one ds h = deliverAll two ds h := by
  induction ds generalizing h with
  | nil => rfl
  | cons d rest ih =>
    have hl := (ho d h).1.pendingCount_le
    rw [deliverAll, deliverAll, ← hs d h hb]
    cases hd : one d h with
    | panicked g => rfl
    | done g _ =>
      rw [hd] at hl
      exact ih (Nat.le_trans hl hb)

theorem requestWith_congr (r : Request) {h : Host} (hb : h.pendingCount ≤ bound) :
    requestWith one r h = requestWith two r h := by
  cases hf : h.borrowed with
  | true => rw [requestWith_of_borrowed one r hf, requestWith_of_borrowed two r hf]
  | false =>
    rw [requestWith_of_free one r hf, requestWith_of_free two r hf, deliverAll_congr ho hs]
    exact hb

theorem requestsWith_congr (s : Sink) (rs : List Request) {h : Host}
    (hb : h.pendingCount ≤ bound) : requestsWith one s rs h = requestsWith two s rs h := by
  induction rs generalizing h with
  | nil => rfl
  | cons r rest ih =>
    have hl := (steady_later.requestWith ho r h).1.pendingCount_le
    rw [requestsWith, requestsWith, ← requestWith_congr ho hs r hb]
    cases hr : requestWith one r h with
    | panicked g => rfl
    | done g reply =>
      rw [hr] at hl
      have hn := (steady_later.note g s reply).pendingCount_le
      exact ih (Nat.le_trans hn (Nat.le_trans hl hb))

theorem reactWith_congr (reaction : Reaction) (d : Delivery) {h : Host}
    (hb : h.pendingCount ≤ bound) : reactWith one reaction d h = reactWith two reaction d h := by
  have hp : (h.put d).pendingCount ≤ bound := by
    rw [pendingCount_put]
    exact hb
  rw [reactWith, reactWith, requestsWith_congr ho hs _ _ hb, requestsWith_congr ho hs _ _ hp]

end

theorem deliverWithin_of_none (depth : Nat) {d : Delivery} {h : Host}
    (hr : h.react? d.sink = none) : deliverWithin depth d h = .done (h.put d) () := by
  cases depth with
  | zero => rfl
  | succ depth => rw [deliverWithin, hr]

/-- The depth does not matter as long as it is enough for the pending reactions. -/
theorem deliverWithin_of_le {d : Delivery} {h : Host} {m n : Nat} (hm : h.pendingCount ≤ m)
    (hn : h.pendingCount ≤ n) : deliverWithin m d h = deliverWithin n d h := by
  -- on the depth, as each reaction that begins leaves one fewer pending
  induction m generalizing d h n with
  | zero =>
    cases hr : h.react? d.sink with
    | none => rw [deliverWithin_of_none 0 hr, deliverWithin_of_none n hr]
    | some x =>
      have hp := pendingCount_of_react? hr
      omega
  | succ m ih =>
    cases hr : h.react? d.sink with
    | none => rw [deliverWithin_of_none (m + 1) hr, deliverWithin_of_none n hr]
    | some x =>
      have hp := pendingCount_of_react? hr
      obtain ⟨n, rfl⟩ : ∃ k, n = k + 1 := Nat.exists_eq_succ_of_ne_zero (by omega)
      rw [deliverWithin, deliverWithin, hr]
      have hs : ∀ e g, pendingCount g ≤ min m n → deliverWithin m e g = deliverWithin n e g := by
        intro e g hg
        exact ih (by omega) (by omega)
      exact reactWith_congr (steady_later.deliverWithin m) hs x.1 d (by omega)

end Host

end Logbook
