import Logbook.Proofs.Host.History
import Logbook.Proofs.Host.Pending

namespace Logbook

namespace Outcome

variable {α β : Type}

@[simp]
theorem isPanic_map (o : Outcome α) (f : α → β) : (o.map f).isPanic = o.isPanic := by
  cases o <;> rfl

@[simp]
theorem isPanic_always (o : Outcome α) (f : Host → Host) : (o.always f).isPanic = o.isPanic := by
  cases o <;> rfl

end Outcome

namespace Host

/-- The host once a sink has taken in a text and has begun its reaction, with nothing asked. -/
def taken (h : Host) (d : Delivery) : Host :=
  ((h.react? d.sink).elim h Prod.snd).put d

/-- Of the texts `ds`, the sinks take in those before one whose sink begins to ask. The request that it
makes changes nothing, and the texts behind that one are not handed over. -/
def StopsIn (h : Host) (ds : List Delivery) (g : Host) : Prop :=
  ∃ made d rest reaction f r others,
    ds = made ++ d :: rest ∧ (made.foldl taken h).react? d.sink = some (reaction, f) ∧
      reaction.requests = r :: others ∧ g = (if reaction.before then f else f.put d) ∧
      g.request r = .panicked g

variable {h : Host}

theorem untouched_taken (h : Host) (d : Delivery) : h.Untouched (h.taken d) := by
  rw [taken]
  cases hr : h.react? d.sink with
  | none => exact h.untouched_put d
  | some x => exact (untouched_react hr).trans (x.2.untouched_put d)

theorem untouched_foldl_taken (h : Host) (ds : List Delivery) :
    h.Untouched (ds.foldl taken h) := by
  induction ds generalizing h with
  | nil => exact .refl h
  | cons d rest ih => exact (h.untouched_taken d).trans (ih (h.taken d))

theorem StopsIn.untouched {ds : List Delivery} {g : Host} (hs : h.StopsIn ds g) :
    h.Untouched g := by
  obtain ⟨made, d, rest, reaction, f, r, others, -, hr, -, hg, -⟩ := hs
  have hf : h.Untouched f := (h.untouched_foldl_taken made).trans (untouched_react hr)
  rw [hg]
  split
  · exact hf
  · exact hf.trans (f.untouched_put d)

theorem StopsIn.cons {d : Delivery} {ds : List Delivery} {g : Host}
    (hs : (h.taken d).StopsIn ds g) : h.StopsIn (d :: ds) g := by
  obtain ⟨made, e, rest, reaction, f, r, others, rfl, hs⟩ := hs
  exact ⟨d :: made, e, rest, reaction, f, r, others, rfl, hs⟩

theorem request_of_borrowed (hb : h.borrowed = true) (r : Request) :
    h.request r = .panicked h :=
  requestWith_of_borrowed _ r hb

theorem reactWith_of_nil (deliver : Delivery → Host → Outcome Unit) {reaction : Reaction}
    (ha : reaction.requests = []) (d : Delivery) (h : Host) :
    reactWith deliver reaction d h = .done (h.put d) () := by
  rw [reactWith, ha]
  split <;> rfl

theorem reactWith_of_borrowed (deliver : Delivery → Host → Outcome Unit) {reaction : Reaction}
    {r : Request} {others : List Request} (ha : reaction.requests = r :: others) (d : Delivery)
    (hb : h.borrowed = true) :
    reactWith deliver reaction d h = .panicked (if reaction.before then h else h.put d) := by
  have hp : (h.put d).borrowed = true := (h.untouched_put d).borrowed.trans hb
  rw [reactWith, ha, requestsWith, requestsWith, requestWith_of_borrowed deliver r hb,
    requestWith_of_borrowed deliver r hp]
  split <;> rfl

theorem deliverWithin_of_borrowed {depth : Nat} {d : Delivery} (hb : h.borrowed = true)
    (hd : h.pendingCount ≤ depth) :
    deliverWithin depth d h = .done (h.taken d) () ∨
      ∃ g, deliverWithin depth d h = .panicked g ∧ ∀ rest, h.StopsIn (d :: rest) g := by
  cases hr : h.react? d.sink with
  | none =>
    refine .inl ?_
    rw [deliverWithin_of_none depth hr, taken, hr]
    rfl
  | some x =>
    obtain ⟨reaction, f⟩ := x
    obtain ⟨n, rfl⟩ : ∃ n, depth = n + 1 := by
      have hp := pendingCount_of_react? hr
      exact Nat.exists_eq_succ_of_ne_zero (by omega)
    have hf : f.borrowed = true := (untouched_react hr).borrowed.trans hb
    have he : deliverWithin (n + 1) d h = reactWith (deliverWithin n) reaction d f := by
      rw [deliverWithin, hr]
    rw [he]
    cases ha : reaction.requests with
    | nil =>
      refine .inl ?_
      rw [reactWith_of_nil _ ha, taken, hr]
      rfl
    | cons r others =>
      -- the flag is still up, so the first request ends the reaction where it is
      have hg : (if reaction.before then f else f.put d).borrowed = true := by
        split
        · exact hf
        · exact (f.untouched_put d).borrowed.trans hf
      exact .inr ⟨_, reactWith_of_borrowed _ ha d hf, fun rest =>
        ⟨[], d, rest, reaction, f, r, others, rfl, hr, ha, rfl, request_of_borrowed hg r⟩⟩

theorem deliver_of_borrowed (hb : h.borrowed = true) (ds : List Delivery) :
    h.deliver ds = .done (ds.foldl taken h) () ∨
      ∃ g, h.deliver ds = .panicked g ∧ h.StopsIn ds g := by
  -- the depth is that of the first host, and later ones have no more reactions pending
  suffices hs : ∀ depth, h.pendingCount ≤ depth →
      deliverAll (deliverWithin depth) ds h = .done (ds.foldl taken h) () ∨
        ∃ g, deliverAll (deliverWithin depth) ds h = .panicked g ∧ h.StopsIn ds g from
    hs h.pendingCount (Nat.le_refl _)
  intro depth
  induction ds generalizing h with
  | nil => exact fun _ => .inl rfl
  | cons d rest ih =>
    intro hd
    rw [deliverAll]
    obtain ht | ⟨g, hg, hs⟩ := deliverWithin_of_borrowed hb hd
    · have hl := (steady_later.deliverWithin depth d h).1
      rw [ht] at hl ⊢
      obtain hr | ⟨g, hr, hs⟩ := ih (hl.borrowed.trans hb) (Nat.le_trans hl.pendingCount_le hd)
      · exact .inl hr
      · exact .inr ⟨g, hr, hs.cons⟩
    · refine .inr ⟨g, ?_, hs rest⟩
      rw [hg]
      rfl

def operated (h : Host) (p : Performance Reply) : Host :=
  { h with borrowed := true }.changed p

def free (h : Host) : Host :=
  { h with borrowed := false }

theorem borrowedCall_eq (hb : h.borrowed = false) (c : Call) :
    let p := h.ambient.perform c
    h.borrowedCall c = (((h.operated p).deliver p.deliveries).map fun _ => p.value).always free := by
  intro p
  rw [borrowedCall, borrowing, if_neg (Bool.eq_false_iff.mp hb), onAmbient, settle_eq]
  rfl

theorem borrowedCall_cases (hb : h.borrowed = false) (c : Call) :
    let p := h.ambient.perform c
    h.borrowedCall c = .done (p.deliveries.foldl taken (h.operated p)).free p.value ∨
      ∃ g, h.borrowedCall c = .panicked g.free ∧ (h.operated p).StopsIn p.deliveries g := by
  intro p
  rw [borrowedCall_eq hb c]
  have hd : (h.operated p).borrowed = true := rfl
  obtain ht | ⟨g, hg, hs⟩ := deliver_of_borrowed hd p.deliveries
  · refine .inl ?_
    rw [ht]
    rfl
  · refine .inr ⟨g, ?_, hs⟩
    rw [hg]
    rfl

theorem untouched_borrowedCall (hb : h.borrowed = false) (c : Call) :
    (h.changed (h.ambient.perform c)).Untouched (h.borrowedCall c).host := by
  have hu : ∀ m, (h.operated (h.ambient.perform c)).Untouched m →
      (h.changed (h.ambient.perform c)).Untouched m.free :=
    fun m hm => ⟨hm.ambient, hb.symm, hm.filter, hm.notices⟩
  obtain hd | ⟨m, hm, hs⟩ := borrowedCall_cases hb c
  · rw [hd]
    exact hu _ (untouched_foldl_taken _ _)
  · rw [hm]
    exact hu m hs.untouched

theorem isPanic_deliverAll_put (ds : List Delivery) (h : Host) :
    (deliverAll (deliverWithin 0) ds h).isPanic = false := by
  induction ds generalizing h with
  | nil => rfl
  | cons d rest ih => exact ih (h.put d)

theorem isPanic_borrowedCall (hb : h.borrowed = false) (hn : h.pendingCount = 0) (c : Call) :
    (h.borrowedCall c).isPanic = false := by
  have hd : (h.operated (h.ambient.perform c)).pendingCount = 0 := hn
  rw [borrowedCall_eq hb c]
  simp only [Outcome.isPanic_always, Outcome.isPanic_map, deliver, hd, isPanic_deliverAll_put]

def attempts (h : Host) : List Call → Host
  | [] => h
  | c :: rest => attempts (h.borrowedCall c).host rest

theorem Untouched.changed {α : Type} {g h : Host} (hu : g.Untouched h) (p : Performance α) :
    (g.changed p).Untouched (h.changed p) := by
  refine ⟨rfl, hu.borrowed, hu.filter, ?_⟩
  simp only [Host.changed, announce, hu.notices, hu.filter]

theorem changed_run_cons (h : Host) (c : Call) (rest : List Call) :
    let p := h.ambient.perform c
    h.changed (h.ambient.run (c :: rest)) = (h.changed p).changed (p.logger.run rest) := by
  simp only [changed, announce, Logger.run, List.filter_append, List.append_assoc]

theorem untouched_attempts (hb : h.borrowed = false) (cs : List Call) :
    (h.changed (h.ambient.run cs)).Untouched (h.attempts cs) := by
  induction cs generalizing h with
  | nil => exact ⟨rfl, rfl, rfl, (List.append_nil h.notices).symm⟩
  | cons c rest ih =>
    have hc := untouched_borrowedCall hb c
    have hr := ih (hc.borrowed.trans hb)
    rw [hc.ambient] at hr
    rw [changed_run_cons]
    exact (hc.changed _).trans hr

/-- An operation changes the ambient logger before it calls a sink. So if a sink asks something and the
operation panics, the logger is as sinks that ask nothing would leave it, the texts before that one
have been handed over, and what comes later goes on from there. -/
theorem untouched_of_panic {h : Host} {c : Call} (hb : h.borrowed = false)
    (hp : (h.borrowedCall c).isPanic = true) :
    let p := h.ambient.perform c
    let g := (h.borrowedCall c).host
    g.ambient = p.logger ∧ g.borrowed = false ∧
      (∀ ds : List Device,
        let k := { h with devices := ds }
        (k.pendingCount = 0 → (k.borrowedCall c).isPanic = false) ∧
          ∀ q reply, k.borrowedCall c = .done q reply →
            q = (p.deliveries.foldl taken (k.operated p)).free ∧ reply = p.value ∧
              q.Untouched g) ∧
      (∃ m, g = m.free ∧ (h.operated p).StopsIn p.deliveries m) ∧
      (∀ r,
        let q := r.perform p.logger
        g.request r = ((g.changed q).deliver q.deliveries).map fun _ => q.value) ∧
      ∀ cs, (g.changed (p.logger.run cs)).Untouched (g.attempts cs) := by
  intro p g
  have hg : (h.changed p).Untouched g := untouched_borrowedCall hb c
  have hf : g.borrowed = false := hg.borrowed.trans hb
  have ha : g.ambient = p.logger := hg.ambient
  refine ⟨ha, hf, fun ds => ?_, ?_, fun r => ?_, fun cs => ?_⟩
  -- other sinks see the same change, as it is made before any of them is called
  · intro k
    have hk : k.borrowed = false := hb
    refine ⟨fun hn => isPanic_borrowedCall hk hn c, fun q reply hq => ?_⟩
    have hu := untouched_borrowedCall hk c
    rw [hq] at hu
    have hs : (k.changed p).Untouched g := ⟨hg.ambient, hg.borrowed, hg.filter, hg.notices⟩
    obtain hd | ⟨m, hm, -⟩ := borrowedCall_cases hk c
    · obtain ⟨he, hv⟩ := Outcome.done.inj (hq.symm.trans hd)
      exact ⟨he, hv, hu.symm.trans hs⟩
    · exact nomatch hq.symm.trans hm
  · obtain hd | ⟨m, hm, hs⟩ := borrowedCall_cases hb c
    · rw [hd] at hp
      exact absurd hp Bool.false_ne_true
    · exact ⟨m, congrArg Outcome.host hm, hs⟩
  · rw [← ha]
    exact requestWith_of_free _ r hf
  · rw [← ha]
    exact untouched_attempts hf cs

/-- The sink asks at the second of three texts. The first two have reached it, and none of the three
waits any more. -/
theorem untouched_of_panic_at_second :
    let counting : Reaction := ⟨[.call .count], false⟩
    let h : Host :=
      { devices := [.callback [] [(1, ⟨[], false⟩), (1, counting)]]
        ambient :=
          { Logger.initial with
            diagnosticSink := .device 0
            backlog :=
              ⟨3, [⟨.error, none, "first"⟩, ⟨.warning, none, "second"⟩, ⟨.error, none, "third"⟩]⟩ } }
    let c : Call := .emit 0 false
    let g := (h.borrowedCall c).host
    h.borrowed = false ∧ (h.borrowedCall c).isPanic = true ∧
      g.devices = [.callback ["first", "second"] [(0, counting)]] ∧
      g.ambient = { h.ambient with backlog := ⟨3, []⟩ } ∧ g.borrowed = false ∧
      ∃ m, g = m.free ∧
        (h.operated (h.ambient.perform c)).StopsIn (h.ambient.perform c).deliveries m := by
  refine ⟨rfl, rfl, rfl, ?_, ?_, ?_⟩
  · exact (untouched_of_panic rfl rfl).1
  · exact (untouched_of_panic rfl rfl).2.1
  · exact (untouched_of_panic rfl rfl).2.2.2.1

end Host

end Logbook
