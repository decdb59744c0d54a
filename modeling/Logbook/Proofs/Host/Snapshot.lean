import Logbook.Proofs.Host.Attribution
import Logbook.Proofs.Ledger.Order

namespace Logbook

namespace History

/-- The account of a history that begins with the ledger `k`: what each request hands over and
answers, and what becomes of each message. -/
structure Accounted (k : Ledger) (t : History) : Prop where
  share : ∀ early r late, t.requests = early ++ r :: late →
    t.ofNumber early.length = script early.length r (k.run early).logger
  /-- An emission is of the oldest messages of its moment, and goes to the sinks of its moment. -/
  emission : ∀ early count context late,
    t.requests = early ++ .call (.emit count context) :: late →
      let m := k.run early
      let texts := (m.oldest count).map fun x =>
        ⟨m.logger.sinkFor x.entry.severity, x.entry.render context⟩
      t.ofNumber early.length =
        .asked early.length (.call (.emit count context)) :: handing early.length texts ++
          [.answered early.length (.number (m.oldest count).length)]
  /-- No other request, nested or not, logs or takes any of those messages. -/
  apart : ∀ early count context late,
    t.requests = early ++ .call (.emit count context) :: late →
      let m := k.run early
      let n := m.perform (.call (.emit count context))
      ∀ x ∈ m.oldest count, x ∉ n.messages late ∧
        ∀ d ∈ k.departures early ++ n.departures late, d.message ≠ x
  /-- What leaves with a call is what the call answers or hands over, and has a fate of its kind. -/
  told : ∀ early c late, t.requests = early ++ .call c :: late →
    (k.run early).Shows c ∧ (k.run early).Timely c
  /-- Each message leaves once or waits in the end. -/
  fates : ((k.departures t.requests).map Departure.message ++
    (k.run t.requests).waiting.entries).Perm (k.waiting.entries ++ k.messages t.requests)
  order : (k.waiting.entries ++ k.messages t.requests).Pairwise Numbered.Before

namespace Settled

variable {t : History}

theorem accounted {k : Ledger} (ht : t.Settled 0 k.logger) (hk : k.Ordered) : t.Accounted k := by
  have hs : ∀ early r late, t.requests = early ++ r :: late →
      t.ofNumber early.length = script early.length r (k.run early).logger := by
    intro early r late he
    rw [ht.share early.length, he, scriptOf_middle, Ledger.logger_eq_after]
  refine ⟨hs, fun early count context late he => ?_, fun early count context late _ => ?_,
    fun early c _ _ => ?_, k.run_perm t.requests, hk.pairwise t.requests⟩
  · obtain ⟨hv, hd⟩ := (k.run early).perform_emit count context
    rw [hs early _ late he, script, Request.perform, hv, hd]
  · exact hk.emit_apart early late count context
  · exact ⟨(k.run early).shows c, (hk.run early).timely c⟩

theorem share_of_mem {l : Logger} (ht : t.Settled 0 l) {number : Nat} {o : Occurrence}
    (h : o ∈ t.ofNumber number) : ∃ r m, t.ofNumber number = script number r m := by
  rw [ht.share number] at h ⊢
  obtain hs | hs := scriptOf_cases 0 l t.requests number
  · rw [hs] at h
    exact absurd h List.not_mem_nil
  · exact hs

theorem asked_of_called {l : Logger} (ht : t.Settled 0 l) {early late : History} {number : Nat}
    {d : Delivery} (h : t = early ++ .called number d :: late) :
    ∃ (before : History) (r : Request) (since : History),
      early = before ++ .asked number r :: since ∧
        d ∈ (r.perform (l.after before.requests)).deliveries ∧
        ((∀ e, .called number e ∉ since) → since = []) := by
  have hn : t.ofNumber number =
      early.ofNumber number ++ .called number d :: late.ofNumber number := by
    rw [h, ofNumber_append, ofNumber_cons, Occurrence.number?, if_pos rfl]
  have hm : .called number d ∈ t.ofNumber number := by
    rw [hn]
    exact List.mem_append_right _ List.mem_cons_self
  obtain ⟨r, m, hs⟩ := ht.share_of_mem hm
  -- the share begins with the asking, so that lies before the call
  obtain ⟨before, since, rfl⟩ : ∃ before since : History,
      early = before ++ .asked number r :: since := by
    have he := hn.symm.trans hs
    cases hc : early.ofNumber number with
    | nil =>
      rw [hc] at he
      exact Occurrence.noConfusion (List.cons.inj he).1
    | cons o u =>
      rw [hc] at he
      obtain rfl : o = .asked number r := (List.cons.inj he).1
      obtain ⟨before, since, hb, -⟩ := List.filter_eq_cons_iff.mp hc
      exact ⟨before, since, hb⟩
  rw [List.append_assoc, List.cons_append] at h
  obtain ⟨hp, hh⟩ := ht.turn before number r _ h
  have hd : d ∈ (r.perform (l.after before.requests)).deliveries := by
    have hr : t.requests = before.requests ++ r :: requests (since ++ .called number d :: late) := by
      rw [h, requests_append, requests_cons]
      rfl
    rw [ht.share number, hr, hp, Nat.zero_add, scriptOf_middle] at hm
    exact mem_script_called hm
  refine ⟨before, r, since, rfl, hd, fun hc => ?_⟩
  cases since with
  | nil => rfl
  | cons o since =>
    obtain ⟨e, es, he⟩ := List.exists_cons_of_ne_nil (List.ne_nil_of_mem hd)
    rw [script, he] at hh
    obtain rfl : o = .called number e := Option.some.inj hh
    exact absurd List.mem_cons_self (hc e)

end Settled

end History

namespace Host

open History

theorem sublist_requests_history (next : Nat) (asks : List Request) (h : Host) :
    List.Sublist asks (history next asks h).requests := by
  induction asks generalizing next h with
  | nil => exact List.nil_sublist _
  | cons r rest ih =>
    have hr : r ∈ (historyOfRequest (historyWithin h.pendingCount) next r h).requests := by
      rw [historyOfRequest, List.cons_append, requests_cons]
      exact List.mem_cons_self
    rw [history, requests_append]
    exact (List.singleton_sublist.mpr hr).append (ih _ _)

/-- A sink that is called finds the ambient logger changed by the request that it is called for and by
those that were asked since then. -/
def SeesChanges (h : Host) (t : History) : Prop :=
  ∀ early number d late, t = early ++ .called number d :: late →
    ∃ (before : History) (r : Request) (since : History),
      early = before ++ .asked number r :: since ∧
        d ∈ (r.perform (h.playAll before).ambient).deliveries ∧
        (h.playAll early).ambient =
          (r.perform (h.playAll before).ambient).logger.after since.requests ∧
        ((∀ e, .called number e ∉ since) → since = [])

theorem seesChanges_of_settled {h : Host} {t : History} (ht : t.Settled 0 h.ambient) :
    h.SeesChanges t := by
  intro early number d late he
  obtain ⟨before, r, since, rfl, hd, hs⟩ := ht.asked_of_called he
  have hb : (h.playAll before).ambient = h.ambient.after before.requests :=
    h.ambient_playAll before
  refine ⟨before, r, since, rfl, hb ▸ hd, ?_, hs⟩
  rw [hb, ambient_playAll, requests_append, Logger.after_append]
  rfl

/-- Whatever sinks ask while they are called, and however deep that nests, requests end, and their
history is accounted for. -/
theorem accounted_history {h : Host} (hb : h.borrowed = false) (asks : List Request) :
    let t := history 0 asks h
    let k := Ledger.opened h.ambient
    requestAll asks h = .done (h.playAll t) () ∧
      (h.playAll t).ambient = (k.run t.requests).logger ∧
      List.Sublist asks t.requests ∧ t.Accounted k ∧ h.SeesChanges t ∧
      ∀ r, (history 0 [r] h).head? = some (.asked 0 r) ∧
        h.request r = .done (h.playAll (history 0 [r] h)) (r.perform h.ambient).value := by
  intro t k
  have ht : t.Settled 0 h.ambient := settled_history 0 asks h
  have ha : (h.playAll t).ambient = (k.run t.requests).logger := by
    rw [ambient_playAll, Ledger.logger_eq_after]
    rfl
  exact ⟨requestAll_eq_playAll 0 asks hb, ha, sublist_requests_history 0 asks h,
    ht.accounted (Ledger.ordered_opened h.ambient), seesChanges_of_settled ht,
    fun r => ⟨rfl, request_eq_playAll r hb⟩⟩

/-- The first text of an emission leads to another emission, to a message and to a reset, and the
second text goes where it would have gone. -/
theorem accounted_history_of_reset :
    let emission : Request := .call (.emit 0 false)
    let asked : Reaction := ⟨[emission, .call (.log .error none "third"), .reset], false⟩
    let h : Host :=
      { devices := [.callback [] [(1, asked)]]
        ambient :=
          { Logger.initial with
            diagnosticSink := .device 0
            backlog := ⟨3, [⟨.error, none, "first"⟩, ⟨.warning, none, "second"⟩]⟩ } }
    let t := history 0 [emission] h
    h.borrowed = false ∧ t.requests = emission :: asked.requests ∧
      t.Accounted (Ledger.opened h.ambient) ∧
      requestAll [emission] h = .done (h.playAll t) () ∧
      (h.playAll t).devices = [.callback ["first", "=> 0", "=> \"ok\"", "second"] [(0, asked)]] ∧
      (h.playAll t).ambient = .initial := by
  refine ⟨rfl, rfl, ?_, ?_, rfl, rfl⟩
  · exact (accounted_history rfl _).2.2.2.1
  · exact (accounted_history rfl _).1

end Host

end Logbook
