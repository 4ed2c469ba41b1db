import ExpiringCache.Proofs.Store.History
import Mathlib.Algebra.GroupWithZero.Nat
/-!
# What the counters of a store count

`Store.Balanced` puts two states of a store side by side with what happened between them: the keys
that were new when they were written, the responses to callers, and the sweeps. Hits, misses and
swept entries are told one by one in the responses and sweeps, and every entry that came in is still
there or was deleted, evicted or swept. Balances add up, so one for each action is enough.
-/

namespace ExpiringCache

variable {ν : Type}

namespace Response

def isHit : Response ν → Bool
  | .payload found? => found?.isSome
  | .entry found? => found?.isSome
  | _ => false

def isMiss : Response ν → Bool
  | .payload found? => found?.isNone
  | .entry found? => found?.isNone
  | _ => false

def isDeletion : Response ν → Bool
  | .deleted present => present
  | _ => false

/-- How many entries a purge removed. -/
def removed : Response ν → Nat
  | .purged removed => removed
  | _ => 0

end Response

/-- The request neither looks up nor purges. -/
def Request.Quiet {κ : Type} : Request κ ν → Prop
  | .put _ _ _ | .delete _ | .size | .hitRate => True
  | .get _ | .getWithExpiry _ | .purge => False

/-- The keys that an action writes, each once. -/
def Action.written : Action ν → List String
  | .serve (.put key _ _) => [key]
  | .reload _ _ (.ok bytes) =>
    match Snapshot.decode bytes with
    | .ok records => (Snapshot.latest records).keys
    | .error _ => []
  | _ => []

/-- The keys that an action writes and that were absent before. -/
def Moment.added (moment : Moment ν) : List String :=
  moment.action.written.filter fun key => (moment.store.table.get? key).isNone

/-- No counter is lower afterwards. -/
structure Counters.Grows (before after : Counters) : Prop where
  hits : before.hits ≤ after.hits
  misses : before.misses ≤ after.misses
  lazyEvictions : before.lazyEvictions ≤ after.lazyEvictions
  swept : before.swept ≤ after.swept

namespace Store

structure Balanced (before after : Store String ν) (added : List String)
    (responses : List (Response ν)) (sweeps : List Nat) : Prop where
  hits : after.counters.hits = before.counters.hits + responses.countP Response.isHit
  misses : after.counters.misses = before.counters.misses + responses.countP Response.isMiss
  evictions : before.counters.lazyEvictions ≤ after.counters.lazyEvictions
  evictions_le_misses : after.counters.lazyEvictions + before.counters.misses ≤
    before.counters.lazyEvictions + after.counters.misses
  swept : after.counters.swept =
    before.counters.swept + (responses.map Response.removed).sum + sweeps.sum
  size : before.size + added.length + before.counters.lazyEvictions + before.counters.swept =
    after.size + responses.countP Response.isDeletion + after.counters.lazyEvictions +
      after.counters.swept

variable {before between after : Store String ν} {added added' : List String}
  {responses responses' : List (Response ν)} {sweeps sweeps' : List Nat}

theorem balanced_self (store : Store String ν) : Balanced store store [] [] [] :=
  ⟨rfl, rfl, le_rfl, le_rfl, rfl, rfl⟩

theorem Balanced.append (h : Balanced before between added responses sweeps)
    (h' : Balanced between after added' responses' sweeps') :
    Balanced before after (added ++ added') (responses ++ responses') (sweeps ++ sweeps') where
  hits := by rw [h'.hits, h.hits, List.countP_append, Nat.add_assoc]
  misses := by rw [h'.misses, h.misses, List.countP_append, Nat.add_assoc]
  evictions := h.evictions.trans h'.evictions
  evictions_le_misses := by
    have hfirst := h.evictions_le_misses
    have hsecond := h'.evictions_le_misses
    omega
  swept := by
    rw [h'.swept, h.swept, List.map_append, List.sum_append, List.sum_append]
    omega
  size := by
    have hfirst := h.size
    have hsecond := h'.size
    rw [List.length_append, List.countP_append]
    omega

theorem Balanced.grows (h : Balanced before after added responses sweeps) :
    before.counters.Grows after.counters where
  hits := h.hits ▸ Nat.le_add_right _ _
  misses := h.misses ▸ Nat.le_add_right _ _
  lazyEvictions := h.evictions
  swept := by
    rw [h.swept, Nat.add_assoc]
    exact Nat.le_add_right _ _

/-- What a purge reports to a caller a sweep reports to the log. -/
theorem Balanced.of_purged (h : Balanced before after added (sweeps.map .purged) []) :
    Balanced before after added [] sweeps := by
  have hnone : ∀ p : Response ν → Bool, (∀ removed, p (.purged removed) = false) →
      (sweeps.map Response.purged).countP p = 0 := by
    intro p hp
    refine List.countP_eq_zero.2 fun response hmem => ?_
    obtain ⟨removed, -, rfl⟩ := List.mem_map.1 hmem
    simp [hp]
  have hsum : ((sweeps.map Response.purged).map (Response.removed (ν := ν))).sum = sweeps.sum := by
    rw [List.map_map]
    exact congrArg List.sum (List.map_id sweeps)
  obtain ⟨hits, misses, hevictions, hle, hswept, hsize⟩ := h
  rw [hnone _ fun _ => rfl] at hits misses hsize
  rw [hsum] at hswept
  exact ⟨hits, misses, hevictions, hle, by rw [hswept]; rfl, hsize⟩

/-! ### One action -/

theorem balanced_singleton {response : Response ν}
    (hits : after.counters.hits = before.counters.hits + response.isHit.toNat)
    (misses : after.counters.misses = before.counters.misses + response.isMiss.toNat)
    (evictions : before.counters.lazyEvictions ≤ after.counters.lazyEvictions)
    (evictions_le : after.counters.lazyEvictions ≤
      before.counters.lazyEvictions + response.isMiss.toNat)
    (swept : after.counters.swept = before.counters.swept + response.removed)
    (size : before.size + added.length + before.counters.lazyEvictions + before.counters.swept =
      after.size + response.isDeletion.toNat + after.counters.lazyEvictions +
        after.counters.swept) :
    Balanced before after added [response] [] := by
  have hcount : ∀ p : Response ν → Bool, [response].countP p = (p response).toNat := by
    intro p
    rw [List.countP_singleton]
    cases p response <;> rfl
  refine ⟨?_, ?_, evictions, ?_, swept, ?_⟩
  · rw [hits, hcount]
  · rw [misses, hcount]
  · omega
  · rw [size, hcount]

theorem balanced_put (store : Store String ν) (clock : Clock) (key : String) (payload : ν)
    (ttl : Duration) :
    Balanced store (store.put key payload ttl clock).1
      ([key].filter fun key => (store.table.get? key).isNone) [.stored] [] := by
  have hadded : ([key].filter fun key => (store.table.get? key).isNone).length =
      (store.table.get? key).isNone.toNat := by
    rw [← List.countP_eq_length_filter, List.countP_singleton]
    cases (store.table.get? key).isNone <;> rfl
  have hsize := store.table.size_insert key { payload, expiresAt := clock.expiry ttl 0 }
  rw [put_eq]
  refine balanced_singleton rfl rfl le_rfl (Nat.le_add_right _ _) rfl ?_
  rw [hadded]
  exact congrArg (· + _ + _) hsize.symm

/-- An eviction turns an entry into a counted one, or does nothing. -/
theorem evictExpired_counts {κ : Type} [DecidableEq κ] (store : Store κ ν) (key : κ)
    (now : Instant) :
    let evicted := store.evictExpired key now
    evicted.counters.hits = store.counters.hits ∧
      evicted.counters.misses = store.counters.misses ∧
      evicted.counters.swept = store.counters.swept ∧
      store.counters.lazyEvictions ≤ evicted.counters.lazyEvictions ∧
      evicted.counters.lazyEvictions ≤ store.counters.lazyEvictions + 1 ∧
      store.size + store.counters.lazyEvictions =
        evicted.size + evicted.counters.lazyEvictions := by
  intro evicted
  by_cases h : ∃ entry, store.table.get? key = some entry ∧ entry.ExpiredAt now
  · obtain ⟨entry, hentry, hexpired⟩ := h
    have herase := store.table.size_erase key
    rw [hentry] at herase
    have hevicted : evicted = { store with
        table := store.table.erase key
        counters.lazyEvictions := store.counters.lazyEvictions + 1 } := by
      simp only [evicted, evictExpired, hentry, if_pos hexpired]
    rw [hevicted]
    refine ⟨rfl, rfl, rfl, Nat.le_succ _, le_rfl, ?_⟩
    change store.table.size + _ = (store.table.erase key).size + (_ + 1)
    rw [← herase, Option.isSome_some, Bool.toNat_true]
    omega
  · have hevicted : evicted = store := by
      simp only [evicted, evictExpired]
      split
      · rfl
      · rename_i entry hentry
        exact if_neg fun hexpired => h ⟨entry, hentry, hexpired⟩
    rw [hevicted]
    exact ⟨rfl, rfl, rfl, le_rfl, Nat.le_succ _, rfl⟩

/-- A lookup counts as a hit or as a miss, and what it takes out of the table it counts. -/
theorem lookup_counts {κ : Type} [DecidableEq κ] (store : Store κ ν) (clock : Clock) (key : κ) :
    let found? := (store.lookup key clock).1
    let after := (store.lookup key clock).2.1
    after.counters.hits = store.counters.hits + found?.isSome.toNat ∧
      after.counters.misses = store.counters.misses + found?.isNone.toNat ∧
      after.counters.swept = store.counters.swept ∧
      store.counters.lazyEvictions ≤ after.counters.lazyEvictions ∧
      after.counters.lazyEvictions ≤ store.counters.lazyEvictions + found?.isNone.toNat ∧
      store.size + store.counters.lazyEvictions = after.size + after.counters.lazyEvictions := by
  intro found? after
  simp only [found?, after]
  cases h : store.table.get? key with
  | none =>
      rw [lookup_of_none h]
      exact ⟨rfl, rfl, rfl, le_rfl, Nat.le_succ _, rfl⟩
  | some entry =>
      by_cases hexpired : entry.ExpiredAt (clock.reading 0)
      · obtain ⟨hits, misses, hswept, hle, hone, hsize⟩ :=
          store.evictExpired_counts key (clock.reading 1)
        rw [lookup_of_expired h hexpired]
        exact ⟨hits, congrArg (· + 1) misses, hswept, hle, hone, hsize⟩
      · rw [lookup_of_live h hexpired]
        exact ⟨rfl, rfl, rfl, le_rfl, le_rfl, rfl⟩

theorem balanced_lookup (store : Store String ν) (clock : Clock) (key : String)
    {response : Response ν} (hhit : response.isHit = (store.lookup key clock).1.isSome)
    (hmiss : response.isMiss = (store.lookup key clock).1.isNone)
    (hdeletion : response.isDeletion = false) (hremoved : response.removed = 0) :
    Balanced store (store.lookup key clock).2.1 [] [response] [] := by
  obtain ⟨hits, misses, hswept, hle, hone, hsize⟩ := store.lookup_counts clock key
  rw [← hhit] at hits
  rw [← hmiss] at misses hone
  refine balanced_singleton hits misses hle hone ?_ ?_
  · rw [hremoved]
    exact hswept
  · rw [hdeletion]
    exact congrArg₂ (· + ·) hsize hswept.symm

theorem balanced_delete (store : Store String ν) (key : String) :
    Balanced store (store.delete key).2 [] [.deleted (store.delete key).1] [] := by
  refine balanced_singleton rfl rfl le_rfl (Nat.le_add_right _ _) rfl ?_
  exact congrArg (· + _ + _) (store.table.size_erase key).symm

theorem balanced_purge (store : Store String ν) (clock : Clock) :
    Balanced store (store.purge clock).2.1 [] [.purged (store.purge clock).1] [] := by
  have hsize : (store.purge clock).2.1.size ≤ store.size :=
    (survivors_sublist store.table.items _).length_le
  refine balanced_singleton rfl rfl le_rfl (Nat.le_add_right _ _) rfl ?_
  have hkept : (store.purge clock).2.1.counters.lazyEvictions = store.counters.lazyEvictions := rfl
  have hswept : (store.purge clock).2.1.counters.swept =
      store.counters.swept + (store.size - (store.purge clock).2.1.size) := rfl
  have hnone : (Response.purged (store.purge clock).1 : Response ν).isDeletion.toNat = 0 := rfl
  rw [hkept, hswept, hnone, List.length_nil]
  omega

section Actions

variable [SnapshotText ν]

theorem counters_reload (store : Store String ν) (clock : Clock) (path : String)
    (policy : SnapshotPolicy) (content : Except IoError (List UInt8)) :
    (store.reload path policy content clock).store.counters = store.counters := by
  cases content with
  | error error => rfl
  | ok bytes =>
      cases hdecode : Snapshot.decode bytes with
      | error error => simp only [reload, hdecode]
      | ok records => rw [reload_of_decode_eq_ok store path policy hdecode, load_eq]

theorem size_load (store : Store String ν) (values : Table String String) (ttl : Duration)
    (clock : Clock) :
    (store.load values ttl clock).1.size =
      store.size + values.keys.countP fun key => (store.table.get? key).isNone := by
  have hkeys : (Entry.freshAll ttl clock (values.items.map fun item =>
      (item.1, (SnapshotText.ofText item.2 : ν)))).map Prod.fst = values.keys :=
    map_fst_freshAll_items values ttl clock
  have hnodup : values.keys.Nodup := values.nodup_keys
  rw [← hkeys] at hnodup ⊢
  rw [load_eq]
  exact Table.size_insertAll hnodup store.table

theorem balanced_reload (store : Store String ν) (clock : Clock) (path : String)
    (policy : SnapshotPolicy) (content : Except IoError (List UInt8)) :
    let moment : Moment ν := { store, clock, action := .reload path policy content }
    Balanced store (store.reload path policy content clock).store moment.added [] [] := by
  intro moment
  cases content with
  | error error => exact balanced_self store
  | ok bytes =>
      cases hdecode : Snapshot.decode bytes with
      | error error =>
          have hadded : moment.added = [] := by
            simp only [moment, Moment.added, Action.written, hdecode, List.filter_nil]
          have hstore : (store.reload path policy (.ok bytes) clock).store = store := by
            simp only [reload, hdecode]
          rw [hadded, hstore]
          exact balanced_self store
      | ok records =>
          have hadded : moment.added.length =
              (Snapshot.latest records).keys.countP fun key => (store.table.get? key).isNone := by
            simp only [moment, Moment.added, Action.written, hdecode, List.countP_eq_length_filter]
          have hsize := store.size_load (Snapshot.latest records) policy.reloadTtl clock
          have hcounters := store.counters_reload clock path policy (.ok bytes)
          rw [reload_of_decode_eq_ok store path policy hdecode] at hcounters ⊢
          refine ⟨?_, ?_, ?_, ?_, ?_, ?_⟩ <;> rw [hcounters]
          · rfl
          · rfl
          · rfl
          · rw [hsize, hadded]
            rfl

/-- What an action changes is told in its response, or counted among the keys it adds. -/
theorem balanced_act (store : Store String ν) (clock : Clock) (action : Action ν) :
    let moment : Moment ν := { store, clock, action }
    Balanced store moment.after moment.added moment.responses [] := by
  intro moment
  cases action with
  | reload path policy content => exact store.balanced_reload clock path policy content
  | serve request =>
      cases request with
      | put key payload ttl => exact store.balanced_put clock key payload ttl
      | get key =>
          refine store.balanced_lookup clock key ?_ ?_ rfl rfl
          · exact Option.isSome_map
          · exact Option.isNone_map
      | getWithExpiry key => exact store.balanced_lookup clock key rfl rfl rfl rfl
      | delete key => exact store.balanced_delete key
      | purge => exact store.balanced_purge clock
      | size =>
          exact balanced_singleton rfl rfl le_rfl le_rfl rfl rfl
      | hitRate => exact balanced_singleton rfl rfl le_rfl le_rfl rfl rfl

theorem balanced_run (store : Store String ν) (clock : Clock) (actions : List (Action ν)) :
    Balanced store (store.run clock actions).1
      ((store.history clock actions).flatMap Moment.added) (store.responses clock actions) [] := by
  induction actions generalizing store clock with
  | nil => exact balanced_self store
  | cons action rest ih =>
      have hfirst := store.balanced_act clock action
      have hrest := ih (store.act clock action).2.1 (store.act clock action).2.2
      rw [responses_cons]
      exact hfirst.append hrest

/-! ### Quiet requests -/

theorem counters_act_of_quiet (store : Store String ν) (clock : Clock)
    {request : Request String ν} (h : request.Quiet) :
    (store.act clock (.serve request)).2.1.counters = store.counters := by
  cases request with
  | put key payload ttl =>
      change (store.put key payload ttl clock).1.counters = store.counters
      rw [put_eq]
      rfl
  | delete key => rfl
  | size => rfl
  | hitRate => rfl
  | get key => exact h.elim
  | getWithExpiry key => exact h.elim
  | purge => exact h.elim

theorem counters_run_of_quiet (store : Store String ν) (clock : Clock)
    {requests : List (Request String ν)} (h : ∀ request ∈ requests, request.Quiet) :
    (store.run clock (requests.map .serve)).1.counters = store.counters := by
  induction requests generalizing store clock with
  | nil => rfl
  | cons request rest ih =>
      obtain ⟨hfirst, hrest⟩ := List.forall_mem_cons.1 h
      exact (ih _ _ hrest).trans (store.counters_act_of_quiet clock hfirst)

end Actions

end Store

end ExpiringCache
