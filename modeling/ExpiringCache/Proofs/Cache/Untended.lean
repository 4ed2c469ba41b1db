import ExpiringCache.Proofs.Cache.Course
import ExpiringCache.Proofs.Janitor.Life
/-!
# Caches that are not swept any more

A cache whose janitors have left, or will leave without another sweep, is a bare store from then on.
Wakes pass it by, at most a janitor leaves, and its commands do what they do to a cache that never
had a janitor, up to the janitors that are still there. The relation of the two survives every
occasion, so no course of them tells the two apart.
-/

namespace ExpiringCache

open Log

variable {ν : Type}

/-- The command starts a janitor or asks which one there is; a bare store has none. -/
def Command.AboutJanitor : Command ν → Prop
  | .startJanitor _ _ | .janitorInterval => True
  | _ => False

def Occasion.AboutJanitor : Occasion ν → Prop
  | .command _ _ _ _ asked => asked.AboutJanitor
  | .wake _ _ _ _ _ => False

/-- What an occasion shows. Of a wake it shows the sweeps in the log. -/
structure Showing (ν : Type) where
  reply? : Option (Reply ν)
  /-- The store, unless the cache was discarded. -/
  store? : Option (Store String ν)
  clock : Clock
  disk? : Option Disk
  log : List Event

/-! ### The last of a janitor -/

namespace Janitor

variable {janitor : Janitor}

/-- The janitor does not run, nor does it sweep if it wakes at the moment. -/
def QuietAt (janitor : Janitor) (now : Nat) : Prop :=
  ¬janitor.running ∧ ∀ lingers, janitor.sweepsBy now lingers = 0

theorem quietAt_of_stopped (h : janitor.phase = .stopped) (now : Nat) : janitor.QuietAt now :=
  ⟨not_running_of_stopped h, sweepsBy_of_stopped h now⟩

theorem quietAt_of_leaving {now : Nat} (h : janitor.phase = .leaving)
    (hone : janitor.schedule.beatsBy now ≤ 1) : janitor.QuietAt now := by
  refine ⟨?_, sweepsBy_of_leaving_of_le_one h hone⟩
  rw [running_iff, h]
  decide

theorem QuietAt.wake {now : Nat} (h : janitor.QuietAt now) (turn lingers : Nat) :
    (janitor.wake now turn lingers).1 = 0 ∧ (janitor.wake now turn lingers).2.QuietAt now := by
  refine ⟨(janitor.fst_wake now turn lingers).trans (h.2 lingers), ?_⟩
  rcases wake_of_not_running h.1 now turn lingers with hsame | ⟨-, hleft⟩
  · rwa [hsame]
  · rw [hleft]
    exact quietAt_of_stopped rfl now

/-- The janitor sweeps no more: it has left, or its period is too long for a beat between its first
one and its leaving. -/
def Spent (janitor : Janitor) : Prop :=
  janitor.phase = .stopped ∨
    (janitor.phase = .leaving ∧ Schedule.lateness < janitor.schedule.period)

theorem Spent.quietAt (h : janitor.Spent) (now : Nat) : janitor.QuietAt now := by
  rcases h with hphase | ⟨hphase, hperiod⟩
  · exact quietAt_of_stopped hphase now
  · exact quietAt_of_leaving hphase (Schedule.beatsBy_le_one hperiod)

theorem Spent.not_running (h : janitor.Spent) : ¬janitor.running := (h.quietAt 0).1

theorem Spent.stop (h : janitor.Spent) : janitor.stop.Spent := by
  rwa [stop_of_not_running h.not_running]

theorem Spent.wake (h : janitor.Spent) (now turn lingers : Nat) :
    (janitor.wake now turn lingers).1 = 0 ∧ (janitor.wake now turn lingers).2.Spent := by
  refine ⟨((h.quietAt now).wake turn lingers).1, ?_⟩
  rcases wake_of_not_running h.not_running now turn lingers with hsame | ⟨-, hleft⟩
  · rwa [hsame]
  · rw [hleft]
    exact Or.inl rfl

end Janitor

namespace Cache

variable {cache bare : Cache ν} {station : Station}

theorem janitor_not_running (h : ¬cache.running) {janitor : Janitor}
    (hjanitor : cache.janitor? = some janitor) : ¬janitor.running := by
  rwa [running, hjanitor, Option.any_some] at h

theorem stop_of_not_running (h : ¬cache.running) : cache.stop = cache := by
  cases hjanitor : cache.janitor? with
  | none => rw [stop, hjanitor, Option.map_none, ← hjanitor]
  | some janitor =>
      have hstop := Janitor.stop_of_not_running (janitor_not_running h hjanitor)
      rw [stop, hjanitor, Option.map_some, hstop, ← hjanitor]

theorem stopEvents_of_not_running (h : ¬cache.running) : cache.stopEvents = [] := by
  unfold stopEvents
  cases hjanitor : cache.janitor? with
  | none => rfl
  | some janitor =>
      have hstop := Janitor.stop_of_not_running (janitor_not_running h hjanitor)
      simp only [hstop, Janitor.farewell_self]

theorem not_running_of_janitor (h : ∀ janitor, cache.janitor? = some janitor → ¬janitor.running) :
    ¬cache.running := by
  cases hjanitor : cache.janitor? with
  | none =>
      rw [running, hjanitor]
      exact Bool.false_ne_true
  | some janitor =>
      rw [running, hjanitor]
      exact h janitor hjanitor

/-- Where no janitor sweeps, a wake leaves the store of the cache alone and logs no sweep. What it
takes from no janitor, all janitors keep. -/
theorem wake_of_no_sweep {property : Janitor → Prop} {now turn lingers : Nat}
    (h : cache.HasJanitors property)
    (hwake : ∀ janitor, property janitor → (janitor.wake now turn lingers).1 = 0 ∧
      property (janitor.wake now turn lingers).2) (station : Station) (clock : Clock) :
    (cache.wake station now turn lingers clock).1.store = cache.store ∧
      (cache.wake station now turn lingers clock).1.HasJanitors property ∧
      (cache.wake station now turn lingers clock).2.1 = clock ∧
      (cache.wake station now turn lingers clock).2.2.filter
        (fun event => event.removed?.isSome) = [] := by
  cases hjanitor : cache.janitorAt? station with
  | none =>
      rw [wake_of_none hjanitor]
      exact ⟨rfl, h, rfl, rfl⟩
  | some janitor =>
      obtain ⟨hnone, hkept⟩ := hwake janitor (h station janitor hjanitor)
      have hfarewell : (janitor.farewell (janitor.wake now turn lingers).2).filter
          (fun event => event.removed?.isSome) = [] := by
        unfold Janitor.farewell
        split <;> rfl
      refine ⟨?_, fun other later hlater => ?_, ?_, ?_⟩
      · rw [wake_of_janitor hjanitor, hnone, store_setJanitor]
        rfl
      · by_cases hother : station = other
        · subst hother
          rw [janitorAt?_wake_self hjanitor] at hlater
          exact Option.some.inj hlater ▸ hkept
        · rw [janitorAt?_wake_of_ne hother] at hlater
          exact h other later hlater
      · simp only [Cache.wake, hjanitor, hnone]
        rfl
      · simp only [Cache.wake, hjanitor, hnone]
        exact hfarewell

/-- No janitor of the cache sweeps any more. -/
def Unswept (cache : Cache ν) : Prop := cache.HasJanitors Janitor.Spent

theorem Unswept.not_running (h : cache.Unswept) : ¬cache.running :=
  not_running_of_janitor fun janitor hjanitor => (h .resident janitor hjanitor).not_running

theorem Unswept.letGo (h : cache.Unswept) : cache.letGo.Unswept :=
  HasJanitors.letGo h fun _ => Janitor.Spent.stop

theorem Unswept.wake (h : cache.Unswept) (station : Station) (now turn lingers : Nat)
    (clock : Clock) :
    (cache.wake station now turn lingers clock).1.store = cache.store ∧
      (cache.wake station now turn lingers clock).1.Unswept ∧
      (cache.wake station now turn lingers clock).2.1 = clock ∧
      (cache.wake station now turn lingers clock).2.2.filter
        (fun event => event.removed?.isSome) = [] :=
  wake_of_no_sweep h (fun _ hspent => hspent.wake now turn lingers) station clock

/-- The cache has the same entries and counters as the other one, and neither is swept any more. -/
structure Untended (cache bare : Cache ν) : Prop where
  store_eq : cache.store = bare.store
  unswept : cache.Unswept
  unswept_bare : bare.Unswept

variable [SnapshotText ν]

def showing (cache : Cache ν) : Occasion ν → List (Showing ν)
  | .command uptime turn clock disk asked =>
    let outcome := cache.run uptime turn clock disk asked
    [{ reply? := some outcome.reply
       store? := outcome.cache?.map (·.store)
       clock := outcome.clock
       disk? := some outcome.disk
       log := outcome.log }]
  | .wake station uptime turn lingers clock =>
    let (woken, clock, log) := cache.wake station uptime turn lingers clock
    [{ reply? := none
       store? := some woken.store
       clock
       disk? := none
       log := log.filter fun event => event.removed?.isSome }]

theorem Untended.run (h : cache.Untended bare) (uptime turn : Nat) (clock : Clock) (disk : Disk)
    {asked : Command ν} (hasked : ¬asked.AboutJanitor) :
    cache.showing (.command uptime turn clock disk asked) =
        bare.showing (.command uptime turn clock disk asked) ∧
      Option.Rel Untended (cache.run uptime turn clock disk asked).cache?
        (bare.run uptime turn clock disk asked).cache? := by
  obtain ⟨hstore, hunswept, hunswept'⟩ := h
  have hidle := hunswept.not_running
  have hbare := hunswept'.not_running
  have hrunning : cache.running = bare.running := by
    rw [Bool.eq_false_iff.2 hidle, Bool.eq_false_iff.2 hbare]
  cases asked with
  | serve request =>
      simp only [showing, Cache.run, hstore, Option.map_some, true_and]
      exact .some ⟨rfl, hunswept, hunswept'⟩
  | serveEach callers =>
      simp only [showing, Cache.run, hstore, Option.map_some, true_and]
      exact .some ⟨rfl, hunswept, hunswept'⟩
  | save path policy =>
      simp only [showing, Cache.run, hstore]
      cases bare.store.save path policy disk with
      | ok saved =>
          exact ⟨by simp only [Option.map_some, hstore], .some ⟨hstore, hunswept, hunswept'⟩⟩
      | error error =>
          exact ⟨by simp only [Option.map_some, hstore], .some ⟨hstore, hunswept, hunswept'⟩⟩
  | reload path policy =>
      simp only [showing, Cache.run, hstore, Option.map_some, true_and]
      exact .some ⟨rfl, hunswept, hunswept'⟩
  | isRunning =>
      simp only [showing, Cache.run, hstore, hrunning, Option.map_some, true_and]
      exact .some ⟨hstore, hunswept, hunswept'⟩
  | close =>
      simp only [showing, Cache.run, stop_of_not_running hidle, stop_of_not_running hbare,
        stopEvents_of_not_running hidle, stopEvents_of_not_running hbare, hidle, hbare, hstore,
        Option.map_some, Bool.and_false, Bool.false_eq_true, if_false, true_and]
      exact .some ⟨hstore, hunswept, hunswept'⟩
  | discard =>
      simp only [showing, Cache.run, stopEvents_of_not_running hidle,
        stopEvents_of_not_running hbare, Option.map_none, true_and]
      exact .none
  | releaseJanitor =>
      refine ⟨?_, .some ⟨hstore, hunswept.letGo, hunswept'.letGo⟩⟩
      simp only [showing, Cache.run, stopEvents_of_not_running hidle,
        stopEvents_of_not_running hbare, letGo, hstore, Option.map_some]
  | startJanitor interval onRuntime => exact absurd trivial hasked
  | janitorInterval => exact absurd trivial hasked

theorem Untended.after (h : cache.Untended bare) {occasion : Occasion ν}
    (hoccasion : ¬occasion.AboutJanitor) :
    cache.showing occasion = bare.showing occasion ∧
      Option.Rel Untended (cache.after? occasion) (bare.after? occasion) := by
  cases occasion with
  | command uptime turn clock disk asked => exact h.run uptime turn clock disk hoccasion
  | wake station uptime turn lingers clock =>
      obtain ⟨hstore, hunswept, hclock, hlog⟩ := h.unswept.wake station uptime turn lingers clock
      obtain ⟨hstore', hunswept', hclock', hlog'⟩ :=
        h.unswept_bare.wake station uptime turn lingers clock
      have hsame : (cache.wake station uptime turn lingers clock).1.store =
          (bare.wake station uptime turn lingers clock).1.store :=
        hstore.trans (h.store_eq.trans hstore'.symm)
      refine ⟨?_, .some ⟨hsame, hunswept, hunswept'⟩⟩
      simp only [showing, hsame, hclock, hclock', hlog, hlog']

theorem Untended.along (h : cache.Untended bare) {occasions : List (Occasion ν)}
    (hoccasions : ∀ occasion ∈ occasions, ¬occasion.AboutJanitor) :
    cache.along showing occasions = bare.along showing occasions := by
  induction occasions generalizing cache bare with
  | nil => rfl
  | cons occasion rest ih =>
      obtain ⟨hoccasion, hrest⟩ := List.forall_mem_cons.1 hoccasions
      obtain ⟨hshowing, hafter⟩ := h.after hoccasion
      rw [Cache.along, Cache.along, hshowing]
      revert hafter
      generalize cache.after? occasion = later?
      generalize bare.after? occasion = bare?
      rintro (hlater | -)
      · exact congrArg _ (ih hlater hrest)
      · rfl

end Cache

end ExpiringCache
