import ExpiringCache.Proofs.Cache.Stations
import ExpiringCache.Proofs.Store.History
/-!
# The course of a cache

A cache changes when a command is carried out on it and when one of its janitors wakes. Every such
occasion has its own clock, uptime and disk, and nothing ties them to those of the occasion before.

What an occasion does to the store is a run of actions: the requests of the command, its reload, or
the purges of the wake. Whatever is told of it, a response or a sweep in the log, is the response to
one of these actions.
-/

namespace ExpiringCache

open Log

variable {ν : Type}

inductive Occasion (ν : Type) where
  | command (uptime turn : Nat) (clock : Clock) (disk : Disk) (asked : Command ν)
  /-- The janitor at a station wakes. -/
  | wake (station : Station) (uptime turn lingers : Nat) (clock : Clock)

def Occasion.clock : Occasion ν → Clock
  | .command _ _ clock _ _ => clock
  | .wake _ _ _ _ clock => clock

/-- What a command does to the store. -/
def Command.actions (disk : Disk) : Command ν → List (Action ν)
  | .serve request => [.serve request]
  | .serveEach callers => callers.flatten.map .serve
  | .reload path policy => [.reload path policy (disk.read path)]
  | _ => []

def Log.Event.removed? : Event → Option Nat
  | .swept removed => some removed
  | _ => none

variable [SnapshotText ν]

namespace Cache

def sweepsAt (cache : Cache ν) (station : Station) (uptime turn lingers : Nat) : Nat :=
  (cache.janitorAt? station).elim 0 fun janitor => (janitor.wake uptime turn lingers).1

/-- What an occasion does to the store. -/
def actions (cache : Cache ν) : Occasion ν → List (Action ν)
  | .command _ _ _ disk asked => asked.actions disk
  | .wake station uptime turn lingers _ =>
    List.replicate (cache.sweepsAt station uptime turn lingers) (.serve .purge)

def moments (cache : Cache ν) (occasion : Occasion ν) : List (Moment ν) :=
  cache.store.history occasion.clock (cache.actions occasion)

/-- The cache after an occasion, unless it was discarded. -/
def after? (cache : Cache ν) : Occasion ν → Option (Cache ν)
  | .command uptime turn clock disk asked => (cache.run uptime turn clock disk asked).cache?
  | .wake station uptime turn lingers clock =>
    some (cache.wake station uptime turn lingers clock).1

/-- The cache after an occasion. One that is discarded stays as it was. -/
def after (cache : Cache ν) (occasion : Occasion ν) : Cache ν :=
  (cache.after? occasion).getD cache

/-- What callers are told. -/
def responses (cache : Cache ν) : Occasion ν → List (Response ν)
  | .command uptime turn clock disk asked =>
    (cache.run uptime turn clock disk asked).reply.toResponses
  | .wake _ _ _ _ _ => []

/-- What the log says of sweeps: how many entries each of them removed. -/
def sweeps (cache : Cache ν) : Occasion ν → List Nat
  | .command _ _ _ _ _ => []
  | .wake station uptime turn lingers clock =>
    (cache.wake station uptime turn lingers clock).2.2.filterMap Event.removed?

/-- The cache after some occasions, or when it is discarded. -/
def follow (cache : Cache ν) : List (Occasion ν) → Cache ν
  | [] => cache
  | occasion :: rest =>
    match cache.after? occasion with
    | some later => later.follow rest
    | none => cache

/-- What a view shows of one occasion after the other, until the cache is discarded. -/
def along {α : Type} (view : Cache ν → Occasion ν → List α) (cache : Cache ν) :
    List (Occasion ν) → List α
  | [] => []
  | occasion :: rest =>
    view cache occasion ++
      match cache.after? occasion with
      | some later => later.along view rest
      | none => []

end Cache

/-! ### Operations as runs -/

namespace Cache

theorem serveEach_run (store : Store String ν) (clock : Clock)
    (callers : List (List (Request String ν))) :
    (serveEach store clock callers).2 = store.run clock (callers.flatten.map .serve) ∧
      (serveEach store clock callers).1.flatten =
        store.responses clock (callers.flatten.map .serve) := by
  induction callers generalizing store clock with
  | nil => exact ⟨rfl, rfl⟩
  | cons requests rest ih =>
      obtain ⟨hrun, hresponses⟩ := ih (store.run clock (requests.map .serve)).1
        (store.run clock (requests.map .serve)).2
      rw [List.flatten_cons, List.map_append, Store.run_append, Store.responses_append, ← hrun,
        ← hresponses]
      simp only [serveEach, Store.serveAll_eq, List.flatten_cons, and_self]

theorem sweep_run (store : Store String ν) (clock : Clock) (n : Nat) :
    ((sweep store clock n).1, (sweep store clock n).2.1) =
        store.run clock (List.replicate n (.serve .purge)) ∧
      ((sweep store clock n).2.2.filterMap Event.removed?).map .purged =
        store.responses clock (List.replicate n (.serve .purge)) := by
  induction n generalizing store clock with
  | zero => exact ⟨rfl, rfl⟩
  | succ n ih =>
      obtain ⟨hrun, hresponses⟩ := ih (store.purge clock).2.1 (store.purge clock).2.2
      refine ⟨hrun, ?_⟩
      rw [List.replicate_succ, Store.responses_cons]
      exact congrArg (List.cons _) hresponses

theorem removed?_farewell (before after : Janitor) :
    (before.farewell after).filterMap Event.removed? = [] := by
  unfold Janitor.farewell
  split <;> rfl

/-! ### Occasions as runs -/

theorem after_of_after? {cache later : Cache ν} {occasion : Occasion ν}
    (h : cache.after? occasion = some later) : cache.after occasion = later := by
  rw [after, h, Option.getD_some]

theorem store_after_command (cache : Cache ν) (uptime turn : Nat) (clock : Clock) (disk : Disk)
    (asked : Command ν) :
    (cache.after (.command uptime turn clock disk asked)).store =
      (cache.store.run clock (asked.actions disk)).1 := by
  cases asked with
  | serveEach callers => exact congrArg Prod.fst (serveEach_run cache.store clock callers).1
  | save path policy =>
      simp only [after, after?, run]
      split <;> rfl
  | startJanitor interval onRuntime => cases onRuntime <;> rfl
  | _ => rfl

theorem store_wake (cache : Cache ν) (station : Station) (uptime turn lingers : Nat)
    (clock : Clock) :
    (cache.wake station uptime turn lingers clock).1.store =
      (cache.store.run clock
        (cache.actions (.wake station uptime turn lingers clock))).1 := by
  rw [actions, sweepsAt, ← (sweep_run _ _ _).1]
  cases hjanitor : cache.janitorAt? station with
  | none =>
      rw [wake_of_none hjanitor]
      rfl
  | some janitor =>
      rw [wake_of_janitor hjanitor, store_setJanitor]
      rfl

theorem store_after (cache : Cache ν) (occasion : Occasion ν) :
    (cache.after occasion).store =
      (cache.store.run occasion.clock (cache.actions occasion)).1 := by
  cases occasion with
  | command uptime turn clock disk asked =>
      exact cache.store_after_command uptime turn clock disk asked
  | wake station uptime turn lingers clock =>
      exact cache.store_wake station uptime turn lingers clock

theorem responses_command (cache : Cache ν) (uptime turn : Nat) (clock : Clock) (disk : Disk)
    (asked : Command ν) :
    (cache.run uptime turn clock disk asked).reply.toResponses =
      cache.store.responses clock (asked.actions disk) := by
  cases asked with
  | serveEach callers => exact (serveEach_run cache.store clock callers).2
  | save path policy =>
      simp only [run]
      split <;> rfl
  | startJanitor interval onRuntime => cases onRuntime <;> rfl
  | _ => rfl

theorem sweeps_wake (cache : Cache ν) (station : Station) (uptime turn lingers : Nat)
    (clock : Clock) :
    (cache.sweeps (.wake station uptime turn lingers clock)).map .purged =
      cache.store.responses clock
        (cache.actions (.wake station uptime turn lingers clock)) := by
  rw [actions, sweepsAt, ← (sweep_run _ _ _).2]
  simp only [sweeps, wake]
  split
  · rename_i hjanitor
    rw [hjanitor]
    rfl
  · rename_i janitor hjanitor
    rw [hjanitor, List.filterMap_append, removed?_farewell, List.append_nil]
    rfl

end Cache

end ExpiringCache
