import Logbook.Proofs.Host.History

namespace Logbook

namespace History

def handing (number : Nat) (ds : List Delivery) : History :=
  ds.flatMap fun d => [.called number d, .took number d]

def script (number : Nat) (r : Request) (l : Logger) : History :=
  .asked number r :: handing number (r.perform l).deliveries ++
    [.answered number (r.perform l).value]

/-- What belongs to one of several requests, the first of which is `next`. -/
def scriptOf (next : Nat) (l : Logger) : List Request → Nat → History
  | [], _ => []
  | r :: rest, number =>
    if number = next then script next r l
    else scriptOf (next + 1) (r.perform l).logger rest number

theorem scriptOf_of_lt {next number : Nat} (h : number < next) (l : Logger) (rs : List Request) :
    scriptOf next l rs number = [] := by
  induction rs generalizing next l with
  | nil => rfl
  | cons r rest ih =>
    rw [scriptOf, if_neg (by omega)]
    exact ih (by omega) (r.perform l).logger

theorem scriptOf_of_le {next number : Nat} (l : Logger) (rs : List Request)
    (h : next + rs.length ≤ number) : scriptOf next l rs number = [] := by
  induction rs generalizing next l with
  | nil => rfl
  | cons r rest ih =>
    rw [List.length_cons] at h
    rw [scriptOf, if_neg (by omega)]
    exact ih (r.perform l).logger (by omega)

theorem scriptOf_append (next : Nat) (l : Logger) (rs ss : List Request) (number : Nat) :
    scriptOf next l (rs ++ ss) number =
      scriptOf next l rs number ++ scriptOf (next + rs.length) (l.after rs) ss number := by
  induction rs generalizing next l with
  | nil => rfl
  | cons r rest ih =>
    rw [List.cons_append, scriptOf, scriptOf, List.length_cons]
    split
    · next hn =>
      rw [scriptOf_of_lt (by omega), List.append_nil]
    · rw [ih, Logger.after]
      congr 2
      omega

theorem scriptOf_middle (l : Logger) (early : List Request) (r : Request) (late : List Request) :
    scriptOf 0 l (early ++ r :: late) early.length = script early.length r (l.after early) := by
  rw [scriptOf_append, scriptOf_of_le l early (by omega), List.nil_append, scriptOf,
    if_pos (Nat.zero_add _).symm, Nat.zero_add]

theorem scriptOf_cases (next : Nat) (l : Logger) (rs : List Request) (number : Nat) :
    scriptOf next l rs number = [] ∨ ∃ r m, scriptOf next l rs number = script number r m := by
  induction rs generalizing next l with
  | nil => exact .inl rfl
  | cons r rest ih =>
    rw [scriptOf]
    split
    · next hn => exact .inr ⟨r, l, by rw [hn]⟩
    · exact ih (next + 1) (r.perform l).logger

theorem handing_append (number : Nat) (ds es : List Delivery) :
    handing number (ds ++ es) = handing number ds ++ handing number es :=
  List.flatMap_append

theorem mem_handing_called {number : Nat} {ds : List Delivery} {d : Delivery}
    (h : .called number d ∈ handing number ds) : d ∈ ds := by
  obtain ⟨e, he, hm⟩ := List.mem_flatMap.mp h
  obtain hc | hm := List.mem_cons.mp hm
  · obtain ⟨-, rfl⟩ := Occurrence.called.inj hc
    exact he
  · exact Occurrence.noConfusion (List.mem_singleton.mp hm)

theorem mem_script_called {number : Nat} {r : Request} {l : Logger} {d : Delivery}
    (h : .called number d ∈ script number r l) : d ∈ (r.perform l).deliveries := by
  obtain hs | ha := List.mem_append.mp h
  · obtain ha | hh := List.mem_cons.mp hs
    · exact Occurrence.noConfusion ha
    · exact mem_handing_called hh
  · exact Occurrence.noConfusion (List.mem_singleton.mp ha)

/-- Requests are asked in the order of their numbers, and right behind each comes what is next for
it. -/
def InTurn (next : Nat) (l : Logger) (t : History) : Prop :=
  ∀ (early : History) number r late, t = early ++ .asked number r :: late →
    number = next + early.requests.length ∧
      late.head? = (script number r (l.after early.requests)).tail.head?

namespace InTurn

variable {next : Nat} {l : Logger} {t u : History}

theorem nil (next : Nat) (l : Logger) : InTurn next l [] := by
  intro early number r late h
  exact absurd h.symm (List.append_ne_nil_of_right_ne_nil _ (List.cons_ne_nil _ _))

theorem cons {o : Occurrence} (ho : o.request? = none) (ht : t.InTurn next l) :
    InTurn next l (o :: t) := by
  intro early number r late h
  cases early with
  | nil =>
    obtain ⟨rfl, -⟩ := List.cons.inj h
    cases ho
  | cons e early =>
    obtain ⟨rfl, he⟩ := List.cons.inj h
    rw [requests_cons, ho]
    exact ht early number r late he

theorem asked {r : Request} (hh : t.head? = (script next r l).tail.head?)
    (ht : t.InTurn (next + 1) (r.perform l).logger) : InTurn next l (.asked next r :: t) := by
  intro early number s late h
  cases early with
  | nil =>
    obtain ⟨ho, rfl⟩ := List.cons.inj h
    obtain ⟨rfl, rfl⟩ := Occurrence.asked.inj ho
    exact ⟨rfl, hh⟩
  | cons e early =>
    obtain ⟨rfl, he⟩ := List.cons.inj h
    obtain ⟨hn, hs⟩ := ht early number s late he
    refine ⟨?_, hs⟩
    rw [hn, requests_cons, List.length_append, Nat.add_assoc]
    rfl

theorem append (ht : t.InTurn next l)
    (hu : u.InTurn (next + t.requests.length) (l.after t.requests)) : (t ++ u).InTurn next l := by
  intro early number r late h
  obtain ⟨mid, rfl, hm⟩ | ⟨mid, he, hm⟩ := List.append_eq_append_iff.mp h
  · -- the request is asked in the second part
    have hp := hu mid number r late hm
    rwa [← Logger.after_append, ← requests_append, Nat.add_assoc, ← List.length_append,
      ← requests_append] at hp
  · cases mid with
    | nil =>
      rw [List.append_nil] at he
      rw [← he]
      exact hu [] number r late hm.symm
    | cons o mid =>
      obtain ⟨rfl, rfl⟩ := List.cons.inj hm
      obtain ⟨hn, hs⟩ := ht early number r mid he
      refine ⟨hn, ?_⟩
      cases mid with
      | nil => simp [script] at hs
      | cons o mid => exact hs

end InTurn

structure Settled (next : Nat) (l : Logger) (t : History) : Prop where
  share : ∀ i, t.ofNumber i = scriptOf next l t.requests i
  turn : t.InTurn next l

/-- A history that begins at the logger `l`, in which the earlier request `number` hands over the texts
`ds`. -/
structure Handed (number : Nat) (ds : List Delivery) (next : Nat) (l : Logger) (t : History) :
    Prop where
  share : ∀ i,
    t.ofNumber i = (if i = number then handing number ds else []) ++ scriptOf next l t.requests i
  turn : t.InTurn next l
  head : t.head? = (handing number ds).head?

theorem settled_nil (next : Nat) (l : Logger) : Settled next l [] :=
  ⟨fun _ => rfl, .nil next l⟩

theorem handed_nil (number next : Nat) (l : Logger) : Handed number [] next l [] where
  share i := by
    rw [handing, List.flatMap_nil, ite_self]
    rfl
  turn := .nil next l
  head := rfl

theorem Settled.append {next : Nat} {l : Logger} {t u : History} (ht : t.Settled next l)
    (hu : u.Settled (next + t.requests.length) (l.after t.requests)) : (t ++ u).Settled next l where
  share i := by rw [ofNumber_append, ht.share i, hu.share i, requests_append, scriptOf_append]
  turn := ht.turn.append hu.turn

theorem Handed.append {number next : Nat} {ds es : List Delivery} {l : Logger} {t u : History}
    (hn : number < next) (ht : t.Handed number ds next l)
    (hu : u.Handed number es (next + t.requests.length) (l.after t.requests)) :
    (t ++ u).Handed number (ds ++ es) next l where
  share i := by
    rw [ofNumber_append, ht.share i, hu.share i, requests_append, scriptOf_append, handing_append]
    by_cases hi : i = number
    · subst hi
      rw [scriptOf_of_lt hn, scriptOf_of_lt (by omega)]
      simp only [if_true, List.append_nil]
    · simp only [if_neg hi, List.nil_append]
  turn := ht.turn.append hu.turn
  head := by rw [handing_append, List.head?_append, List.head?_append, ht.head, hu.head]

section

variable {number next : Nat} {l : Logger} {t : History} (hn : number < next)

include hn

/-- A text that is handed over while `t` and `u` happen belongs to its own request, and they have what
they had. -/
theorem share_around (t u : History) (d : Delivery)
    (hs : ∀ i, (t ++ u).ofNumber i = scriptOf next l (requests (t ++ u)) i) (i : Nat) :
    let v := .called number d :: (t ++ .took number d :: u)
    ofNumber v i =
      (if i = number then handing number [d] else []) ++ scriptOf next l (requests v) i := by
  intro v
  have hr : requests v = requests (t ++ u) := by simp [v]
  rw [hr, ← hs i]
  by_cases hi : i = number
  · subst hi
    have he : t.ofNumber i = [] ∧ u.ofNumber i = [] := by
      rw [← List.append_eq_nil_iff, ← ofNumber_append, hs i, scriptOf_of_lt hn]
    simp [v, handing, he]
  · simp [v, hi, Ne.symm hi]

theorem handed_put (d : Delivery) :
    Handed number [d] next l [.called number d, .took number d] where
  share := share_around hn [] [] d (settled_nil next l).share
  turn := .cons rfl (.cons rfl (.nil next l))
  head := rfl

theorem Settled.before (ht : t.Settled next l) (d : Delivery) (s : Sink) :
    Handed number [d] next l (.called number d :: .began s :: (t ++ [.took number d])) where
  share := share_around hn (.began s :: t) [] d fun i => by simpa using ht.share i
  turn := .cons rfl (.cons rfl (ht.turn.append (.cons rfl (.nil _ _))))
  head := rfl

theorem Settled.behind (ht : t.Settled next l) (d : Delivery) (s : Sink) :
    Handed number [d] next l (.called number d :: .began s :: .took number d :: t) where
  share := share_around hn [.began s] t d fun i => by simpa using ht.share i
  turn := .cons rfl (.cons rfl (.cons rfl ht.turn))
  head := rfl

end

theorem Handed.request {number : Nat} {r : Request} {l : Logger} {t : History}
    (ht : t.Handed number (r.perform l).deliveries (number + 1) (r.perform l).logger) :
    Settled number l (.asked number r :: t ++ [.answered number (r.perform l).value]) where
  share i := by
    have hs := ht.share i
    by_cases hi : i = number
    · subst hi
      rw [if_pos rfl, scriptOf_of_lt (Nat.lt_succ_self i), List.append_nil] at hs
      simp [hs, scriptOf, script]
    · rw [if_neg hi, List.nil_append] at hs
      simp [hs, scriptOf, hi, Ne.symm hi]
  turn := by
    refine .asked ?_ (ht.turn.append (.cons rfl (.nil _ _)))
    show List.head? (t ++ _) = List.head? (handing number (r.perform l).deliveries ++ _)
    rw [List.head?_append, List.head?_append, ht.head]

end History

namespace Host

open History

section

variable {inner : Nat → Nat → Delivery → Host → History}
  (hi : ∀ number next d h, number < next → (inner number next d h).Handed number [d] next h.ambient)

include hi

theorem handed_historyOfAll {number next : Nat} (hn : number < next) (ds : List Delivery) (h : Host) :
    (historyOfAll inner number next ds h).Handed number ds next h.ambient := by
  induction ds generalizing next h with
  | nil => exact handed_nil number next h.ambient
  | cons d rest ih =>
    have hr := @ih (next + (inner number next d h).requests.length) (by omega)
      (h.playAll (inner number next d h))
    rw [ambient_playAll] at hr
    exact (hi number next d h hn).append hn hr

theorem settled_historyOfRequest (next : Nat) (r : Request) (h : Host) :
    (historyOfRequest inner next r h).Settled next h.ambient :=
  (handed_historyOfAll hi (Nat.lt_succ_self next) (r.perform h.ambient).deliveries
    (h.changed (r.perform h.ambient))).request

theorem settled_historyOfRequests (s : Sink) (next : Nat) (rs : List Request) (h : Host) :
    (historyOfRequests inner s next rs h).Settled next h.ambient := by
  induction rs generalizing next h with
  | nil => exact settled_nil next h.ambient
  | cons r rest ih =>
    let t := historyOfRequest inner next r h ++ [.noted s (r.perform h.ambient).value]
    have ht : t.Settled next h.ambient := by
      have hr := settled_historyOfRequest hi next r h
      refine ⟨fun i => ?_, hr.turn.append (.cons rfl (.nil _ _))⟩
      simpa [t] using hr.share i
    have hr := ih (next + t.requests.length) (h.playAll t)
    rw [ambient_playAll] at hr
    exact ht.append hr

/-- What a sink asks while it is called lies before or behind its taking in of the text. -/
theorem handed_historyOfReaction {number next : Nat} (hn : number < next) (reaction : Reaction)
    (d : Delivery) {g h : Host} (hg : g.Untouched h) :
    Handed number [d] next g.ambient
      (.called number d :: .began d.sink ::
        historyOfReaction inner number next reaction d h) := by
  rw [historyOfReaction, ← hg.ambient]
  split
  · exact (settled_historyOfRequests hi d.sink next reaction.requests h).before hn d d.sink
  · have ht := settled_historyOfRequests hi d.sink next reaction.requests (h.put d)
    rw [(h.untouched_put d).ambient] at ht
    exact ht.behind hn d d.sink

end

theorem handed_historyWithin (depth : Nat) {number next : Nat} (hn : number < next) (d : Delivery)
    (h : Host) : (historyWithin depth number next d h).Handed number [d] next h.ambient := by
  -- on the depth to which reactions may still nest
  induction depth generalizing number next d h with
  | zero => exact handed_put hn d
  | succ depth ih =>
    rw [historyWithin]
    cases hr : h.react? d.sink with
    | none => exact handed_put hn d
    | some x =>
      exact handed_historyOfReaction (fun _ _ d h hn => ih hn d h) hn x.1 d (untouched_react hr)

/-- Of all that happens while requests are made, each request has its own share, those of the caller
and those of sinks alike. -/
theorem settled_history (next : Nat) (rs : List Request) (h : Host) :
    (history next rs h).Settled next h.ambient := by
  induction rs generalizing next h with
  | nil => exact settled_nil next h.ambient
  | cons r rest ih =>
    let t := historyOfRequest (historyWithin h.pendingCount) next r h
    have ht : t.Settled next h.ambient :=
      settled_historyOfRequest (fun _ _ d h hn => handed_historyWithin _ hn d h) next r h
    have hr := ih (next + t.requests.length) (h.playAll t)
    rw [ambient_playAll] at hr
    exact ht.append hr

end Host

end Logbook
