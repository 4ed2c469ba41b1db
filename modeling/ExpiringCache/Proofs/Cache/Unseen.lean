import ExpiringCache.Proofs.Cache.Course
import ExpiringCache.Proofs.Store.View
/-!
# Sweeps are not seen

Two caches on which the same calls are made at the same times look the same to their callers,
whatever janitors sweep them and whatever purges come in between, as long as no clock goes back. The
tables themselves may differ meanwhile, in entries that are expired; one more purge removes those.
-/

namespace ExpiringCache

variable {ν : Type}

/-- What callers ask in an occasion, purges and counts left out, with the clock they ask at. -/
def Occasion.calls : Occasion ν → List (Clock × Action ν)
  | .command _ _ clock disk asked =>
    ((asked.actions disk).filter Action.isCall).map fun action => (clock, action)
  | .wake _ _ _ _ _ => []

/-- Every occasion has one time, and none is earlier than the one before. -/
structure Forward (occasions : List (Occasion ν)) : Prop where
  queued_eq : ∀ occasion ∈ occasions, occasion.clock.queued = []
  times : (occasions.map fun occasion => occasion.clock.steady).Pairwise (· ≤ ·)

def Response.isLookup : Response ν → Bool
  | .payload _ | .entry _ => true
  | _ => false

/-- What lookups are told. -/
def Sighting.lookups (sighting : Sighting ν) : List (Response ν) :=
  (sighting.reply?.elim [] Reply.toResponses).filter Response.isLookup

namespace Cache

theorem calls_eq (cache : Cache ν) (occasion : Occasion ν) :
    occasion.calls =
      ((cache.actions occasion).filter Action.isCall).map
        fun action => (occasion.clock, action) := by
  cases occasion with
  | command uptime turn clock disk asked => rfl
  | wake station uptime turn lingers clock =>
      have hnone : (cache.actions (.wake station uptime turn lingers clock)).filter
          Action.isCall = [] := by
        refine List.filter_eq_nil_iff.2 fun action hmem => ?_
        obtain rfl := List.eq_of_mem_replicate hmem
        exact Bool.false_ne_true
      rw [hnone]
      rfl

end Cache

variable [SnapshotText ν]

namespace Store

theorem lookups_of_moment (moment : Moment ν) :
    moment.responses.filter Response.isLookup =
      if moment.action.isCall then moment.sighting.lookups else [] := by
  obtain ⟨store, clock, action⟩ := moment
  cases action with
  | reload path policy content => rfl
  | serve request => cases request <;> rfl

theorem lookups_of_run (store : Store String ν) (clock : Clock) (actions : List (Action ν)) :
    (store.responses clock actions).filter Response.isLookup =
      (store.sightings clock actions).flatMap Sighting.lookups := by
  have hmoments : ∀ history : List (Moment ν),
      (history.flatMap Moment.responses).filter Response.isLookup =
        ((history.filter fun moment => moment.action.isCall).map Moment.sighting).flatMap
          Sighting.lookups := by
    intro history
    induction history with
    | nil => rfl
    | cons moment rest ih =>
        rw [List.flatMap_cons, List.filter_append, lookups_of_moment, ih, List.filter_cons]
        cases moment.action.isCall <;> rfl
  exact hmoments _

end Store

namespace Cache

/-- What callers see of the calls in an occasion. -/
def sightings (cache : Cache ν) (occasion : Occasion ν) : List (Sighting ν) :=
  cache.store.sightings occasion.clock (cache.actions occasion)

theorem lookups_of_occasion (cache : Cache ν) (occasion : Occasion ν) :
    (cache.responses occasion).filter Response.isLookup =
      (cache.sightings occasion).flatMap Sighting.lookups := by
  rw [sightings, ← Store.lookups_of_run]
  cases occasion with
  | command uptime turn clock disk asked =>
      exact congrArg _ (cache.responses_command uptime turn clock disk asked)
  | wake station uptime turn lingers clock =>
      rw [Occasion.clock, ← sweeps_wake]
      refine (List.filter_eq_nil_iff.2 fun response hmem => ?_).symm
      obtain ⟨removed, -, rfl⟩ := List.mem_map.1 hmem
      exact Bool.false_ne_true

theorem lookups_along (cache : Cache ν) (occasions : List (Occasion ν)) :
    (cache.along responses occasions).filter Response.isLookup =
      (cache.along sightings occasions).flatMap Sighting.lookups := by
  induction occasions generalizing cache with
  | nil => rfl
  | cons occasion rest ih =>
      rw [along, along, List.filter_append, List.flatMap_append, lookups_of_occasion]
      cases cache.after? occasion with
      | none => rfl
      | some later => exact congrArg _ (ih later)

/-- A course that goes forward in time shows what its calls alone show. -/
theorem replay_along {cache : Cache ν} {store : Store String ν} {occasions : List (Occasion ν)}
    (hforward : Forward occasions)
    (hsame : ∀ occasion ∈ occasions,
      cache.store.view occasion.clock.steady = store.view occasion.clock.steady) :
    let calls := cache.along (fun _ occasion => occasion.calls) occasions
    cache.along sightings occasions = (store.replay calls).1 ∧
      ∀ last, (∀ occasion ∈ occasions, occasion.clock.steady ≤ last) →
        cache.store.view last = store.view last →
        (cache.follow occasions).store.view last = (store.replay calls).2.view last := by
  induction occasions generalizing cache store with
  | nil => exact ⟨rfl, fun last _ hlast => hlast⟩
  | cons occasion rest ih =>
      obtain ⟨hqueued, hothers⟩ := List.forall_mem_cons.1 hforward.queued_eq
      obtain ⟨hahead, htimes⟩ := List.pairwise_cons.1 hforward.times
      obtain ⟨hnow, -⟩ := List.forall_mem_cons.1 hsame
      obtain ⟨hseen, hafter⟩ := Store.replay_calls hqueued hnow (cache.actions occasion)
      rw [← calls_eq] at hseen hafter
      rw [← store_after] at hafter
      cases h : cache.after? occasion with
      | none =>
          rw [after, h] at hafter
          simp only [along, follow, h, List.append_nil]
          refine ⟨hseen, fun last hbound _ => ?_⟩
          exact Store.view_mono hafter (hbound occasion List.mem_cons_self)
      | some later =>
          rw [after_of_after? h] at hafter
          have hnext : ∀ next ∈ rest, later.store.view next.clock.steady =
              (store.replay occasion.calls).2.view next.clock.steady := by
            intro next hmem
            exact Store.view_mono hafter (hahead _ (List.mem_map.2 ⟨next, hmem, rfl⟩))
          obtain ⟨hrest, hend⟩ := ih ⟨hothers, htimes⟩ hnext
          simp only [along, follow, h, Store.replay_append]
          refine ⟨congrArg₂ (· ++ ·) hseen hrest, fun last hbound _ => ?_⟩
          obtain ⟨hle, hbound'⟩ := List.forall_mem_cons.1 hbound
          exact hend last hbound' (Store.view_mono hafter hle)

theorem replay_along_of_empty {cache : Cache ν} (hempty : cache.store = {})
    {occasions : List (Occasion ν)} (hforward : Forward occasions) :
    let calls := cache.along (fun _ occasion => occasion.calls) occasions
    cache.along sightings occasions = (({} : Store String ν).replay calls).1 ∧
      ∀ last, (∀ occasion ∈ occasions, occasion.clock.steady ≤ last) →
        (cache.follow occasions).store.view last =
          (({} : Store String ν).replay calls).2.view last := by
  have hsame : ∀ time, cache.store.view time = ({} : Store String ν).view time :=
    fun _ => by rw [hempty]
  obtain ⟨hseen, hend⟩ := replay_along hforward fun _ _ => hsame _
  exact ⟨hseen, fun last hbound => hend last hbound (hsame last)⟩

end Cache

/-- **Sweeps are not seen.** Two caches that start empty and get the same calls at the same times,
while their janitors and further purges sweep them at other times, show their callers the same:
every reply but that of a delete, the hits and misses, and the entries that are not expired. After
one more purge at the same time they hold the same. -/
theorem sweeps_are_not_seen {first second : Cache ν} (hfirst : first.store = {})
    (hsecond : second.store = {}) {occasions occasions' : List (Occasion ν)}
    (hforward : Forward occasions) (hforward' : Forward occasions')
    (hcalls : first.along (fun _ occasion => occasion.calls) occasions =
      second.along (fun _ occasion => occasion.calls) occasions') :
    first.along Cache.sightings occasions = second.along Cache.sightings occasions' ∧
    (first.along Cache.responses occasions).filter Response.isLookup =
      (second.along Cache.responses occasions').filter Response.isLookup ∧
    ∀ clock : Clock, clock.queued = [] →
      (∀ occasion ∈ occasions ++ occasions', occasion.clock.steady ≤ clock.steady) →
      ∀ key, ((first.follow occasions).store.purge clock).2.1.table.get? key =
        ((second.follow occasions').store.purge clock).2.1.table.get? key := by
  obtain ⟨hseen, hend⟩ := Cache.replay_along_of_empty hfirst hforward
  obtain ⟨hseen', hend'⟩ := Cache.replay_along_of_empty hsecond hforward'
  have hsightings : first.along Cache.sightings occasions =
      second.along Cache.sightings occasions' := by
    rw [hseen, hseen', hcalls]
  refine ⟨hsightings, ?_, fun clock hqueued hbound key => ?_⟩
  · rw [Cache.lookups_along, Cache.lookups_along, hsightings]
  · obtain ⟨hbefore, hbefore'⟩ := List.forall_mem_append.1 hbound
    rw [Store.get?_purge_eq_live hqueued, Store.get?_purge_eq_live hqueued, hend _ hbefore,
      hend' _ hbefore', hcalls]

/-- One cache is swept by its janitor while an entry is expired, the other by nobody. -/
theorem sweeps_are_not_seen_of_expired_entry :
    let clockAt (seconds : Int) : Clock := { steady := { seconds } }
    let ask (seconds : Int) (request : Request String Payload) : Occasion Payload :=
      .command 0 0 (clockAt seconds) .blank (.serve request)
    let writes := [ask 0 (.put "a" (.text "x") (.ofSeconds 1)),
      ask 0 (.put "b" (.text "y") (.ofSeconds 60))]
    let lookups := [ask 10 (.get "a"), ask 10 (.get "b")]
    let swept := writes ++ .wake .resident 5000000000 1 0 (clockAt 5) :: lookups
    let unswept := writes ++ lookups
    let tended : Cache Payload := { janitor? := some (.start .standard (.ofSeconds 1) 0 0) }
    let untended : Cache Payload := {}
    tended.store = {} ∧ untended.store = {} ∧ Forward swept ∧ Forward unswept ∧
      tended.along (fun _ occasion => occasion.calls) swept =
        untended.along (fun _ occasion => occasion.calls) unswept ∧
      tended.along Cache.sightings swept = untended.along Cache.sightings unswept ∧
      ∀ key, ((tended.follow swept).store.purge (clockAt 20)).2.1.table.get? key =
        ((untended.follow unswept).store.purge (clockAt 20)).2.1.table.get? key := by
  intro clockAt ask writes lookups swept unswept tended untended
  have hswept : Forward swept := ⟨by decide, by decide⟩
  have hunswept : Forward unswept := ⟨by decide, by decide⟩
  have hcalls : tended.along (fun _ occasion => occasion.calls) swept =
      untended.along (fun _ occasion => occasion.calls) unswept := by
    simp only [swept, unswept, writes, lookups, ask, List.cons_append, List.nil_append,
      Cache.along, Cache.after?, Cache.run, Occasion.calls]
  obtain ⟨hsightings, -, hpurged⟩ := sweeps_are_not_seen rfl rfl hswept hunswept hcalls
  exact ⟨rfl, rfl, hswept, hunswept, hcalls, hsightings, hpurged (clockAt 20) rfl (by decide)⟩

end ExpiringCache
