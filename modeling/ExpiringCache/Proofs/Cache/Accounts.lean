import ExpiringCache.Proofs.Cache.Course
import ExpiringCache.Proofs.Store.Counts
/-!
# The accounts of a cache

Over any course of occasions, under any clocks, the counters of a cache tell what callers and the
log were told, and its entries are those that were added less those that were deleted, evicted or
swept. What a caller does other than looking up and purging leaves the counters alone.
-/

namespace ExpiringCache

variable {ν : Type}

/-- The command makes no request that looks up or purges. -/
def Command.Quiet : Command ν → Prop
  | .serve request => request.Quiet
  | .serveEach callers => ∀ request ∈ callers.flatten, request.Quiet
  | _ => True

variable [SnapshotText ν]

namespace Cache

theorem counters_after_of_quiet (cache : Cache ν) (uptime turn : Nat) (clock : Clock) (disk : Disk)
    {asked : Command ν} (h : asked.Quiet) :
    (cache.after (.command uptime turn clock disk asked)).store.counters =
      cache.store.counters := by
  rw [store_after_command]
  cases asked with
  | serve request => exact cache.store.counters_act_of_quiet clock h
  | serveEach callers => exact cache.store.counters_run_of_quiet clock h
  | reload path policy => exact cache.store.counters_reload clock path policy (disk.read path)
  | _ => rfl

/-! ### Courses -/

/-- The keys that an occasion adds. -/
def additions (cache : Cache ν) (occasion : Occasion ν) : List String :=
  (cache.moments occasion).flatMap Moment.added

theorem balanced_after (cache : Cache ν) (occasion : Occasion ν) :
    cache.store.Balanced (cache.after occasion).store (cache.additions occasion)
      (cache.responses occasion) (cache.sweeps occasion) := by
  have hrun := cache.store.balanced_run occasion.clock (cache.actions occasion)
  rw [← store_after] at hrun
  cases occasion with
  | command uptime turn clock disk asked =>
      rw [responses, responses_command]
      exact hrun
  | wake station uptime turn lingers clock =>
      rw [Occasion.clock, ← sweeps_wake] at hrun
      exact hrun.of_purged

theorem balanced_follow (cache : Cache ν) (occasions : List (Occasion ν)) :
    cache.store.Balanced (cache.follow occasions).store (cache.along additions occasions)
      (cache.along responses occasions) (cache.along sweeps occasions) := by
  induction occasions generalizing cache with
  | nil => exact Store.balanced_self cache.store
  | cons occasion rest ih =>
      have hfirst := cache.balanced_after occasion
      cases h : cache.after? occasion with
      | none =>
          rw [after, h] at hfirst
          simp only [follow, along, h, List.append_nil]
          exact hfirst
      | some later =>
          rw [after_of_after? h] at hfirst
          simp only [follow, along, h]
          exact hfirst.append (ih later)

theorem grows_follow_append (cache : Cache ν) (occasions more : List (Occasion ν)) :
    (cache.follow occasions).store.counters.Grows
      (cache.follow (occasions ++ more)).store.counters := by
  induction occasions generalizing cache with
  | nil => exact (cache.balanced_follow more).grows
  | cons occasion rest ih =>
      cases h : cache.after? occasion with
      | none =>
          simp only [List.cons_append, follow, h]
          exact ⟨le_rfl, le_rfl, le_rfl, le_rfl⟩
      | some later =>
          simp only [List.cons_append, follow, h]
          exact ih later

/-- **Every entry and every lookup is accounted for.** However a cache came from the empty store,
its statistics agree with what was added to it and with what callers and the log were told, no
counter ever falls, and commands that neither look up nor purge leave all four alone. -/
theorem accounts_of_course (janitor? : Option Janitor) (timer : Timer) (managed : Bool)
    (occasions : List (Occasion ν)) :
    let fresh : Cache ν := { janitor?, timer, managed }
    let cache := fresh.follow occasions
    let stats := cache.store.stats
    let told := fresh.along responses occasions
    let swept := fresh.along sweeps occasions
    (∀ uptime turn clock disk, (cache.run uptime turn clock disk (.serve .size)).reply =
      .response (.size stats.totalEntries)) ∧
    (fresh.along additions occasions).length =
      stats.totalEntries + told.countP Response.isDeletion + stats.lazyEvictions + stats.swept ∧
    stats.hits = told.countP Response.isHit ∧
    stats.misses = told.countP Response.isMiss ∧
    stats.lazyEvictions ≤ stats.misses ∧
    stats.swept = (told.map Response.removed).sum + swept.sum ∧
    (∀ more, stats.toCounters.Grows (fresh.follow (occasions ++ more)).store.stats.toCounters) ∧
    ∀ uptime turn clock disk (asked : Command ν), asked.Quiet →
      (cache.after (.command uptime turn clock disk asked)).store.stats.toCounters =
        stats.toCounters := by
  intro fresh cache stats told swept
  obtain ⟨hits, misses, -, hle, hswept, hsize⟩ := fresh.balanced_follow occasions
  -- The empty store has no entries, and its counters stand at zero.
  have hzero : fresh.store.counters = {} := rfl
  have hempty : fresh.store.size = 0 := rfl
  rw [hzero] at hits misses hle hswept hsize
  rw [hempty] at hsize
  refine ⟨fun uptime turn clock disk => rfl, ?_, ?_, ?_, ?_, ?_, ?_, ?_⟩
  · change _ = cache.store.size + _ + cache.store.counters.lazyEvictions +
      cache.store.counters.swept
    rw [← hsize]
    simp only [Nat.zero_add, Nat.add_zero]
  · exact hits.trans (Nat.zero_add _)
  · exact misses.trans (Nat.zero_add _)
  · change cache.store.counters.lazyEvictions ≤ cache.store.counters.misses
    simpa only [Nat.zero_add, Nat.add_zero] using hle
  · exact hswept.trans (congrArg (· + _) (Nat.zero_add _))
  · exact fresh.grows_follow_append occasions
  · intro uptime turn clock disk asked hquiet
    exact cache.counters_after_of_quiet uptime turn clock disk hquiet

end Cache

end ExpiringCache
