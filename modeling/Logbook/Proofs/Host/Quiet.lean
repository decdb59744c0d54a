import Logbook.Proofs.Host.Unwinding

namespace Logbook

open Tracing

namespace Pending

def reactions (p : Pending) : List Reaction :=
  (p.filter fun x => 0 < x.1).map Prod.snd

theorem reactions_of_next? {p q : Pending} {r : Reaction} (h : next? p = some (r, q)) :
    r ∈ reactions p ∧ reactions q ⊆ reactions p := by
  induction p with
  | nil => cases h
  | cons first rest ih =>
    obtain ⟨times, reaction⟩ := first
    cases times with
    | zero => simpa [reactions] using ih h
    | succ times =>
      obtain ⟨rfl, rfl⟩ := Prod.mk.inj (Option.some.inj h)
      by_cases ht : 0 < times <;> simp [reactions, ht]

end Pending

namespace Device

variable {heard : Event → Option Request}

def reactions (heard : Event → Option Request) : Device → List Reaction
  | callback _ pending => Pending.reactions pending
  | instrumented _ responses => responses.map (Response.reaction heard)
  | _ => []

theorem reactions_accept (text : String) (d : Device) :
    (d.accept text).reactions heard = d.reactions heard := by
  cases d <;> rfl

theorem reactions_of_react? {d e : Device} {r : Reaction} (h : d.react? heard = some (r, e)) :
    r ∈ d.reactions heard ∧ e.reactions heard ⊆ d.reactions heard := by
  cases d with
  | collecting | writer => cases h
  | callback lines pending =>
    obtain ⟨x, hn, hp⟩ := Option.map_eq_some_iff.mp h
    obtain ⟨rfl, rfl⟩ := Prod.mk.inj hp
    exact Pending.reactions_of_next? hn
  | instrumented lines responses =>
    cases responses with
    | nil => cases h
    | cons response rest =>
      obtain ⟨rfl, rfl⟩ := Prod.mk.inj (Option.some.inj h)
      exact ⟨List.mem_cons_self, List.subset_cons_self _ _⟩

end Device

namespace Host

/-- No sink asks anything when it is called, neither by itself nor through an event. -/
def Quiet (h : Host) : Prop :=
  ∀ d ∈ h.devices, ∀ r ∈ d.reactions h.forward?, r.requests = []

variable {h : Host}

theorem Quiet.onDevice (hq : h.Quiet) {number : Nat} {f : Device → Device}
    (hf : ∀ d, h.devices[number]? = some d →
      (f d).reactions h.forward? ⊆ d.reactions h.forward?) :
    (h.onDevice number f).Quiet := by
  intro d hd r hr
  obtain ⟨i, hi⟩ := List.mem_iff_getElem?.mp hd
  rw [Host.onDevice, List.getElem?_modify] at hi
  obtain ⟨e, he, rfl⟩ := Option.map_eq_some_iff.mp hi
  have hm : e ∈ h.devices := List.mem_iff_getElem?.mpr ⟨i, he⟩
  by_cases hn : number = i
  · subst hn
    rw [if_pos rfl] at hr
    exact hq e hm r (hf e he hr)
  · rw [if_neg hn] at hr
    exact hq e hm r hr

theorem Quiet.put (hq : h.Quiet) (d : Delivery) : (h.put d).Quiet := by
  rw [Host.put]
  cases d.sink with
  | output | errors => exact hq
  | device number =>
    apply hq.onDevice
    intro e _
    rw [Device.reactions_accept]
    exact List.Subset.refl _

theorem Quiet.react (hq : h.Quiet) {g : Host} {s : Sink} {r : Reaction}
    (hr : h.react? s = some (r, g)) : r.requests = [] ∧ g.Quiet := by
  cases s with
  | output | errors => cases hr
  | device number =>
    obtain ⟨x, hb, hx⟩ := Option.map_eq_some_iff.mp hr
    obtain ⟨rfl, rfl⟩ := Prod.mk.inj hx
    obtain ⟨d, hd, hx⟩ := Option.bind_eq_some_iff.mp hb
    obtain ⟨hm, hs⟩ := Device.reactions_of_react? hx
    refine ⟨hq d (List.mem_of_getElem? hd) _ hm, hq.onDevice fun e he => ?_⟩
    rw [← Option.some.inj (hd.symm.trans he)]
    exact hs

theorem Quiet.taken (hq : h.Quiet) (d : Delivery) : (h.taken d).Quiet := by
  rw [Host.taken]
  cases hr : h.react? d.sink with
  | none => exact hq.put d
  | some x => exact (hq.react hr).2.put d

theorem Quiet.foldl_taken (hq : h.Quiet) (ds : List Delivery) :
    (ds.foldl Host.taken h).Quiet := by
  induction ds generalizing h with
  | nil => exact hq
  | cons d rest ih => exact ih (hq.taken d)

theorem deliverWithin_of_quiet (hq : h.Quiet) {depth : Nat} (hd : h.pendingCount ≤ depth)
    (d : Delivery) : deliverWithin depth d h = .done (h.taken d) () := by
  cases hr : h.react? d.sink with
  | none =>
    rw [deliverWithin_of_none depth hr, Host.taken, hr]
    rfl
  | some x =>
    have hp := pendingCount_of_react? hr
    obtain ⟨n, rfl⟩ : ∃ n, depth = n + 1 := Nat.exists_eq_succ_of_ne_zero (by omega)
    rw [deliverWithin, hr, Host.taken, hr]
    exact reactWith_of_nil _ (hq.react hr).1 d x.2

theorem deliverAll_of_quiet (hq : h.Quiet) {depth : Nat} (hd : h.pendingCount ≤ depth)
    (ds : List Delivery) :
    deliverAll (deliverWithin depth) ds h = .done (ds.foldl Host.taken h) () := by
  induction ds generalizing h with
  | nil => rfl
  | cons d rest ih =>
    have hl := (steady_later.deliverWithin depth d h).1.pendingCount_le
    rw [deliverWithin_of_quiet hq hd] at hl
    rw [deliverAll, deliverWithin_of_quiet hq hd]
    exact ih (hq.taken d) (Nat.le_trans hl hd)

def holding (h : Host) (l : Logger) (borrowed : Bool) (notices : List Notice) : Host :=
  { h with ambient := l, borrowed, notices }

theorem taken_holding (h : Host) (l : Logger) (b : Bool) (ns : List Notice) (d : Delivery) :
    (h.holding l b ns).taken d = (h.taken d).holding l b ns := by
  obtain ⟨s, text⟩ := d
  cases s with
  | output | errors => rfl
  | device number =>
    have hd : (h.holding l b ns).devices = h.devices := rfl
    have hf : (h.holding l b ns).forward? = h.forward? := rfl
    simp only [Host.taken, react?, hd, hf]
    cases h.devices[number]?.bind (Device.react? h.forward?) <;> rfl

def withAmbient (h : Host) (l : Logger) : Host :=
  { h with ambient := l }

def withFlag (h : Host) (borrowed : Bool) : Host :=
  { h with borrowed }

theorem taken_withAmbient (l : Logger) (h : Host) (d : Delivery) :
    (h.withAmbient l).taken d = (h.taken d).withAmbient l := by
  have hu := h.untouched_taken d
  refine (h.taken_holding l h.borrowed h.notices d).trans ?_
  rw [← hu.borrowed, ← hu.notices]
  rfl

theorem taken_withFlag (b : Bool) (h : Host) (d : Delivery) :
    (h.withFlag b).taken d = (h.taken d).withFlag b := by
  have hu := h.untouched_taken d
  refine (h.taken_holding h.ambient b h.notices d).trans ?_
  rw [← hu.ambient, ← hu.notices]
  rfl

theorem taken_announce (ns : List Notice) (h : Host) (d : Delivery) :
    (h.announce ns).taken d = (h.taken d).announce ns := by
  have hu := h.untouched_taken d
  refine (h.taken_holding h.ambient h.borrowed (h.announce ns).notices d).trans ?_
  simp only [holding, announce, hu.ambient, hu.borrowed, hu.notices, hu.filter]

end Host

end Logbook
