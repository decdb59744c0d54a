import Logbook.Host.Request
import Logbook.Proofs.Configuration
import Logbook.Proofs.Logger

/-!
A logger beside the numbers of its messages. The ledger says of each request which messages leave
with it, and how; the numbers count the messages logged.
-/

namespace Logbook

structure Numbered where
  number : Nat
  entry : Entry
deriving DecidableEq

/-- Handed over by its own call, pushed out by a later message, emitted, popped, discarded, or given
up together with the backlog by a configuration. -/
inductive Fate where
  | passed
  | evicted
  | emitted
  | popped
  | discarded
  | replaced
deriving DecidableEq

def Fate.atHead : Fate → Bool
  | evicted => true
  | emitted => true
  | _ => false

def Fate.comesFrom : Fate → Call → Bool
  | passed, .log _ _ _ => true
  | evicted, .log _ _ _ => true
  | emitted, .emit _ _ => true
  | popped, .pop => true
  | popped, .popInto _ _ => true
  | popped, .drain => true
  | discarded, .discard => true
  | replaced, .configure _ => true
  | replaced, .start _ => true
  | _, _ => false

structure Departure where
  message : Numbered
  fate : Fate
deriving DecidableEq

/-- Without their numbers, the messages that wait are those of the logger. -/
structure Ledger where
  logger : Logger
  waiting : Backlog Numbered
  next : Nat
  waiting_map : waiting.map Numbered.entry = logger.backlog

namespace Ledger

def opened (l : Logger) : Ledger where
  logger := l
  waiting := ⟨l.backlog.capacity, l.backlog.entries.mapIdx Numbered.mk⟩
  next := l.backlog.entries.length
  waiting_map := by
    have h : (l.backlog.entries.mapIdx Numbered.mk).map Numbered.entry = l.backlog.entries := by
      rw [List.mapIdx_eq_zipIdx_map, List.map_map]
      exact List.zipIdx_map_fst 0 _
    rw [Backlog.map, h]

variable (k : Ledger)

def logged : Request → List Numbered
  | .call (.log s origin message) => [⟨k.next, k.logger.entryOf s origin message⟩]
  | _ => []

structure Parting where
  gone : List Departure
  stays : Backlog Numbered

def Parting.of (fate : Fate) (parts : List Numbered × Backlog Numbered) : Parting :=
  ⟨parts.1.map fun m => ⟨m, fate⟩, parts.2⟩

def popOne : List Numbered × Backlog Numbered :=
  k.waiting.popNewest.elim ([], k.waiting) fun (m, rest) => ([m], rest)

def part : Request → Parting
  | .reset => .of .replaced (k.waiting.entries, .disabled)
  | .call (.log s origin message) =>
    if k.logger.keeps s then
      .of .evicted (k.waiting.push ⟨k.next, k.logger.entryOf s origin message⟩)
    else .of .passed ([⟨k.next, k.logger.entryOf s origin message⟩], k.waiting)
  | .call (.emit count _) => .of .emitted (k.waiting.takeOldest count)
  | .call .pop => .of .popped k.popOne
  | .call (.popInto (some (_ :: _)) _) => .of .popped k.popOne
  | .call (.popInto _ _) => ⟨[], k.waiting⟩
  | .call .drain => .of .popped (k.waiting.entries.reverse, k.waiting.clear.2)
  | .call .discard => .of .discarded k.waiting.clear
  | .call (.configure s) => .of .replaced (k.waiting.entries, .empty s.maxMessages)
  | .call (.start _) => .of .replaced (k.waiting.entries, .disabled)
  | .call .count => ⟨[], k.waiting⟩
  | .call .capacity => ⟨[], k.waiting⟩

theorem popOne_map :
    k.popOne.2.map Numbered.entry = k.logger.pop.logger.backlog := by
  rw [Logger.logger_pop, Logger.withEntries, ← k.waiting_map, popOne]
  rcases List.eq_nil_or_concat' k.waiting.entries with h | ⟨ms, m, h⟩
  · simp [Backlog.popNewest, Backlog.map, h]
  · simp [Backlog.popNewest, Backlog.map, h]

/-- The numbers change nothing: what stays is what the logger keeps. -/
theorem part_map (r : Request) :
    (k.part r).stays.map Numbered.entry = (r.perform k.logger).logger.backlog := by
  have hw := k.waiting_map
  cases r with
  | reset => rfl
  | call c =>
    cases c with
    | log s origin message =>
      by_cases h : k.logger.keeps s = true
      -- a push does not look at the numbers
      · have hm := Backlog.map_push Numbered.entry k.waiting
          ⟨k.next, k.logger.entryOf s origin message⟩
        rw [hw] at hm
        simp [part, h, Parting.of, Request.perform, Logger.perform, Performance.map,
          Logger.log_of_keeps h, hm]
      · simp [part, h, Parting.of, Request.perform, Logger.perform, Performance.map,
          Logger.log_of_not_keeps, hw]
    | emit count context =>
      have hm := Backlog.map_takeOldest Numbered.entry k.waiting count
      rw [hw] at hm
      simp [part, Parting.of, Request.perform, Logger.perform, Performance.map, Logger.emit, hm]
    | pop => exact k.popOne_map
    | popInto buffer context =>
      cases buffer with
      | none => exact hw
      | some bytes =>
        cases bytes with
        | nil => exact hw
        | cons => exact k.popOne_map
    | drain =>
      simp only [part, Parting.of, Request.perform, Logger.perform, Performance.map,
        Logger.logger_drain, Logger.withEntries, ← hw]
      rfl
    | discard =>
      simp only [part, Parting.of, Request.perform, Logger.perform, Performance.map,
        Logger.discard, ← hw]
      rfl
    | configure s =>
      simp [part, Parting.of, Request.perform, Logger.perform, Performance.map,
        Logger.logger_configure, Logger.applied, Settings.accepted, Backlog.empty, Backlog.map]
    | start s =>
      simp [part, Parting.of, Request.perform, Logger.perform, Performance.map,
        Logger.logger_start, Logger.applied, Settings.accepted, Settings.unbuffered,
        Backlog.disabled, Backlog.empty, Backlog.map]
    | count => exact hw
    | capacity => exact hw

def perform (r : Request) : Ledger where
  logger := (r.perform k.logger).logger
  waiting := (k.part r).stays
  next := k.next + (k.logged r).length
  waiting_map := k.part_map r

def run (k : Ledger) : List Request → Ledger
  | [] => k
  | r :: rest => run (k.perform r) rest

def departures (k : Ledger) : List Request → List Departure
  | [] => []
  | r :: rest => (k.part r).gone ++ departures (k.perform r) rest

end Ledger

end Logbook
