import Logbook.Proofs.Given
import Logbook.Proofs.Host.Access
import Logbook.Proofs.Notices

namespace Logbook

/-- A drain is a pop for each message that waits. Every other call stands for itself. -/
def Call.singly (l : Logger) : Call → List Call
  | .drain => List.replicate l.backlog.size .pop
  | c => [c]

/-- What a notice says is so, right after what it tells of. -/
def Notice.Agrees (l : Logger) : Notice → Prop
  | configured capacity _ => capacity = l.backlog.capacity
  | prefixRejected _ length => textLimit < length
  | evicted count capacity => 0 < count ∧ capacity = l.backlog.capacity
  | drained _ count remaining => 0 < count ∧ remaining = l.backlog.size

namespace Logger

def storedBy (l : Logger) : List Call → Nat
  | [] => 0
  | c :: rest => l.stored c + storedBy (l.perform c).logger rest

def singly (l : Logger) : List Call → List Call
  | [] => []
  | c :: rest => c.singly l ++ singly (l.perform c).logger rest

/-- The notices of a run, each with the logger that the call which raised it leaves. -/
def told (l : Logger) : List Call → List (Notice × Logger)
  | [] => []
  | c :: rest =>
    ((l.perform c).notices.map fun n => (n, (l.perform c).logger)) ++ told (l.perform c).logger rest

theorem told_notices (l : Logger) (cs : List Call) :
    (l.told cs).map Prod.fst = (l.run cs).notices := by
  induction cs generalizing l with
  | nil => rfl
  | cons c rest ih =>
    rw [told, List.map_append, ih, List.map_map, notices_run_cons]
    exact congrArg (· ++ _) (List.map_id _)

theorem run_pops {l : Logger} (es : List Entry) (h : l.backlog.entries = es) :
    (l.run (List.replicate es.length .pop)).logger = (l.drainUpTo es.length).logger ∧
      (l.run (List.replicate es.length .pop)).notices = (l.drainUpTo es.length).notices ∧
      (l.run (List.replicate es.length .pop)).deliveries = [] := by
  induction es using List.reverseRecOn generalizing l with
  | nil => exact ⟨rfl, rfl, rfl⟩
  | append_singleton es e ih =>
    obtain ⟨hl, hn, hd⟩ := ih (l := l.withEntries es) rfl
    rw [l.drainUpTo_of_append h, List.length_append, List.length_singleton, List.replicate_succ,
      run_cons]
    simp only [Performance.append, Performance.map, perform, pop_of_append l h, hl, hn, hd,
      List.append_nil, and_self]

theorem run_singly_call (l : Logger) (c : Call) :
    (l.run (c.singly l)).logger = (l.perform c).logger ∧
      (l.run (c.singly l)).notices = (l.perform c).notices ∧
      (l.run (c.singly l)).deliveries = (l.perform c).deliveries := by
  cases c with
  | drain =>
    obtain ⟨hl, hn, hd⟩ := run_pops l.backlog.entries rfl
    exact ⟨hl, hn, hd.trans l.deliveries_drain.symm⟩
  | _ => exact ⟨rfl, List.append_nil _, List.append_nil _⟩

theorem run_singly (l : Logger) (cs : List Call) :
    (l.run (l.singly cs)).logger = (l.run cs).logger ∧
      (l.run (l.singly cs)).notices = (l.run cs).notices ∧
      (l.run (l.singly cs)).deliveries = (l.run cs).deliveries := by
  induction cs generalizing l with
  | nil => exact ⟨rfl, rfl, rfl⟩
  | cons c rest ih =>
    obtain ⟨hl, hn, hd⟩ := l.run_singly_call c
    obtain ⟨il, jn, jd⟩ := ih (l.perform c).logger
    rw [singly, run_append, run_cons]
    simp only [Performance.append, Performance.map, hl, hn, hd, il, jn, jd, and_self]

theorem ne_drain_of_mem_singly {l : Logger} {cs : List Call} {c : Call} (hc : c ∈ l.singly cs) :
    c ≠ .drain := by
  induction cs generalizing l with
  | nil => exact absurd hc List.not_mem_nil
  | cons d rest ih =>
    obtain hd | hr := List.mem_append.mp hc
    · cases d with
      | drain =>
        rw [List.eq_of_mem_replicate hd]
        exact nofun
      | _ =>
        rw [List.mem_singleton.mp hd]
        exact nofun
    · exact ih hr

theorem agrees_perform (l : Logger) {c : Call} (hc : c ≠ .drain) :
    ∀ n ∈ (l.perform c).notices, n.Agrees (l.perform c).logger := by
  intro n hm
  obtain ⟨s, -, hb, hn⟩ | ⟨-, -, ⟨hn, -⟩ | ⟨k, hk, hn, -⟩ | ⟨removal, k, hk, hn, -⟩⟩ :=
    l.notices_cases hc
  · rw [hn] at hm
    obtain hf | hl := List.mem_append.mp hm
    · obtain ⟨f, hr, hf⟩ := List.mem_filterMap.mp hf
      obtain ⟨outlet, length, rfl, hl⟩ := Settings.eq_of_mem_refused hr
      rw [← Option.some.inj hf]
      exact hl
    · rw [List.mem_singleton.mp hl, Notice.Agrees, hb]
      rfl
  · rw [hn] at hm
    exact absurd hm List.not_mem_nil
  · rw [hn] at hm
    rw [List.mem_singleton.mp hm]
    exact ⟨hk, rfl⟩
  · rw [hn] at hm
    rw [List.mem_singleton.mp hm]
    exact ⟨hk, rfl⟩

theorem agrees_told (l : Logger) {cs : List Call} (hcs : ∀ c ∈ cs, c ≠ .drain) :
    ∀ x ∈ l.told cs, x.1.Agrees x.2 := by
  induction cs generalizing l with
  | nil => exact fun x hx => absurd hx List.not_mem_nil
  | cons c rest ih =>
    obtain ⟨hc, hr⟩ := List.forall_mem_cons.mp hcs
    intro x hx
    obtain hp | ht := List.mem_append.mp hx
    · obtain ⟨n, hn, rfl⟩ := List.mem_map.mp hp
      exact l.agrees_perform hc n hn
    · exact ih _ hr x ht

theorem storedBy_append (l : Logger) (cs ds : List Call) :
    l.storedBy (cs ++ ds) = l.storedBy cs + (l.run cs).logger.storedBy ds := by
  induction cs generalizing l with
  | nil => exact (Nat.zero_add _).symm
  | cons c rest ih => rw [List.cons_append, storedBy, ih, storedBy, Nat.add_assoc, logger_run_cons]

theorem storedBy_pops (l : Logger) (n : Nat) : l.storedBy (List.replicate n .pop) = 0 := by
  induction n generalizing l with
  | zero => rfl
  | succ n ih => exact (Nat.zero_add _).trans (ih _)

theorem storedBy_singly (l : Logger) (cs : List Call) :
    l.storedBy (l.singly cs) = l.storedBy cs := by
  induction cs generalizing l with
  | nil => rfl
  | cons c rest ih =>
    have hc : l.storedBy (c.singly l) = l.stored c := by
      cases c with
      | drain => exact l.storedBy_pops _
      | _ => rfl
    rw [singly, storedBy_append, hc, (l.run_singly_call c).1, ih, storedBy]

theorem balance_perform (l : Logger) {c : Call} (hc : c ≠ .drain) :
    l.backlog.size + l.stored c =
      ((l.perform c).notices.map Notice.departed).sum + (l.perform c).logger.backlog.size := by
  obtain ⟨s, hs, hb, hn⟩ | ⟨-, -, ⟨hn, ht⟩ | ⟨k, -, hn, ht⟩ | ⟨removal, k, -, hn, ht⟩⟩ :=
    l.notices_cases hc
  · have hz : l.stored c = 0 := by
      cases c with
      | log => cases hs
      | _ => rfl
    rw [hn, hb, hz, List.map_append, List.sum_append, departed_refused]
    simp [Notice.departed, Backlog.empty, Backlog.size]
  · rw [hn, ht]
    simp
  · rw [hn, ← ht]
    simp [Notice.departed]
  · rw [hn, ← ht]
    simp [Notice.departed]

theorem balance_run (l : Logger) {cs : List Call} (hcs : ∀ c ∈ cs, c ≠ .drain) :
    l.backlog.size + l.storedBy cs =
      ((l.run cs).notices.map Notice.departed).sum + (l.run cs).logger.backlog.size := by
  induction cs generalizing l with
  | nil => simp [storedBy, run]
  | cons c rest ih =>
    obtain ⟨hc, hr⟩ := List.forall_mem_cons.mp hcs
    have hp := l.balance_perform hc
    have hi := ih (l.perform c).logger hr
    have hn : (l.run (c :: rest)).notices =
        (l.perform c).notices ++ ((l.perform c).logger.run rest).notices := rfl
    rw [logger_run_cons, hn, List.map_append, List.sum_append, storedBy]
    omega

/-- The account that the notices of a run give. Drains are taken apart into pops, so that there is a
logger right after each removal. -/
structure Balanced (l : Logger) (cs : List Call) : Prop where
  balance : l.backlog.size + l.storedBy cs =
    ((l.run cs).notices.map Notice.departed).sum + (l.run cs).logger.backlog.size
  singly : (l.run (l.singly cs)).logger = (l.run cs).logger
  told : (l.told (l.singly cs)).map Prod.fst = (l.run cs).notices
  agrees : ∀ x ∈ l.told (l.singly cs), x.1.Agrees x.2
  /-- A configuration says what it refuses and how much it gives up, once. -/
  configured : ∀ early c late, cs = early ++ c :: late → ∀ s, c.settings? = some s →
    let m := (l.run early).logger
    (m.perform c).notices =
      s.refused.filterMap ConfigFault.notice? ++ [.configured s.maxMessages m.backlog.size]

theorem balanced (l : Logger) (cs : List Call) : l.Balanced cs := by
  obtain ⟨hl, hn, -⟩ := l.run_singly cs
  have hs : ∀ c ∈ l.singly cs, c ≠ .drain := fun c hc => ne_drain_of_mem_singly hc
  refine ⟨?_, hl, (l.told_notices _).trans hn, l.agrees_told hs, fun early c _ _ s hc => ?_⟩
  · have hb := l.balance_run hs
    rwa [storedBy_singly, hl, hn] at hb
  · have hd : c ≠ .drain := by
      rintro rfl
      cases hc
    obtain ⟨t, ht, -, hm⟩ | ⟨hm, -⟩ := (l.run early).logger.notices_cases hd
    · rw [← Option.some.inj (ht.symm.trans hc)]
      exact hm
    · exact nomatch hm.symm.trans hc

end Logger

open Host Logger

/-- Since a logger was made, or since the ambient logger was last reset, its notices account for
every message that was put into its backlog, whatever it is asked. Making a logger from settings is a
configuration as well. A host on which everything is heard records all of these notices, in their
order. -/
theorem balanced_since_new (settings? : Option (Settings Sink)) (cs : List Call) :
    let calls := settings?.toList.map Call.configure ++ cs
    let p := initial.run calls
    let made := (new settings?).run cs
    made.logger = p.logger ∧
      settings?.elim [] (fun s => (ofSettings s).notices) ++ made.notices = p.notices ∧
      initial.backlog.size = 0 ∧ initial.Balanced calls ∧
      ∀ h : Host, h.borrowed = false → h.Quiet → h.filter = .upTo .trace →
        (∃ g, ownAll .initial calls h = .done g (p.value, p.logger) ∧
          g.notices = h.notices ++ p.notices) ∧
        ∀ as : List Access, as.flatMap Access.calls = calls →
          ∃ g, (h.request .reset).andThen (fun g _ => accessAll as g) = .done g p.value ∧
            g.ambient = p.logger ∧ g.notices = h.notices ++ p.notices := by
  intro calls p made
  have hm : made.logger = p.logger ∧
      settings?.elim [] (fun s => (ofSettings s).notices) ++ made.notices = p.notices := by
    cases settings? <;> exact ⟨rfl, rfl⟩
  refine ⟨hm.1, hm.2, rfl, initial.balanced calls, fun h hb hq hf => ⟨?_, fun as ha => ?_⟩⟩
  · exact ⟨_, ownAll_of_quiet hq .initial calls, notices_shown hf p⟩
  · have hr := accessAll_since_reset hq hb as
    rw [ha] at hr
    exact ⟨_, hr, rfl, notices_shown hf p⟩

/-- Of three messages one is pushed out, one is drained and one is given up. What the host recorded
before the reset stays in front. -/
theorem balanced_since_new_of_three :
    let made : Settings Sink := { maxMessages := 1 }
    let long := String.ofList (List.replicate 201 'x')
    let cs : List Call :=
      [.log .error none "first", .log .warning none "second", .log .info none "ready", .drain,
        .log .error none "third", .configure { logPrefix := some long }]
    let calls := .configure made :: cs
    let p := initial.run calls
    let h : Host := { notices := [.drained .free 3 0] }
    p.notices =
        [.configured 1 0, .evicted 1 1, .drained .pop 1 0, .prefixRejected .log 201,
          .configured 0 1] ∧
      initial.storedBy calls = 3 ∧ initial.Balanced calls ∧
      h.borrowed = false ∧ h.Quiet ∧ h.filter = .upTo .trace ∧
      ∃ g, (h.request .reset).andThen (fun g _ => accessAll [.borrowing calls] g) =
          .done g p.value ∧ g.ambient = p.logger ∧ g.notices = h.notices ++ p.notices := by
  intro made long cs calls p h
  have hq : h.Quiet := fun d hd => absurd hd List.not_mem_nil
  obtain ⟨-, -, -, hb, hh⟩ := balanced_since_new (some made) cs
  exact ⟨by decide +kernel, by decide +kernel, hb, rfl, hq, rfl,
    (hh h rfl hq rfl).2 [.borrowing calls] (List.append_nil calls)⟩

end Logbook
