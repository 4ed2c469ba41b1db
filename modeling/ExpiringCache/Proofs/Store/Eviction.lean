import ExpiringCache.Proofs.Store.Counts
import ExpiringCache.Proofs.Store.Expiry
import ExpiringCache.Proofs.Store.Purge
/-!
# Evictions by lookups and by purges

At one time a lookup and a purge judge an entry alike. So lookups take out some of what a purge
takes out: the expired entries of the keys they ask for. `Store.EvictedBy` keeps this along a list
of lookups, with the number of entries present and evicted, which no lookup changes. What lookups
have not come to is left for a purge.
-/

namespace ExpiringCache.Store

variable {κ ν : Type} [DecidableEq κ]

/-- The expired entries of the keys that were asked for are gone, each counted as evicted. -/
structure EvictedBy (asked : κ → Prop) (now : Instant) (before after : Store κ ν) : Prop where
  get?_iff : ∀ key entry, after.table.get? key = some entry ↔
    before.table.get? key = some entry ∧ ¬(asked key ∧ entry.ExpiredAt now)
  size_eq : before.size + before.counters.lazyEvictions =
    after.size + after.counters.lazyEvictions
  grows : before.counters.lazyEvictions ≤ after.counters.lazyEvictions

variable {store before between after purged rest : Store κ ν} {asked also : κ → Prop}
  {now : Instant} {requests : List (Request κ ν)} {removed removed' : Nat}

/-! ### Lookups -/

theorem EvictedBy.trans (h : before.EvictedBy asked now between)
    (h' : between.EvictedBy also now after) :
    before.EvictedBy (fun key => asked key ∨ also key) now after where
  get?_iff key entry := by
    rw [h'.get?_iff, h.get?_iff, or_and_right, not_or, and_assoc]
  size_eq := h.size_eq.trans h'.size_eq
  grows := h.grows.trans h'.grows

theorem evictedBy_lookup (store : Store κ ν) (now : Instant) (key : κ) :
    store.EvictedBy (fun other => key = other) now (store.lookup key { steady := now }).2.1 := by
  obtain ⟨-, -, -, hgrows, -, hsize⟩ := store.lookup_counts { steady := now } key
  refine ⟨fun other entry => ?_, hsize, hgrows⟩
  rw [get?_lookup, Clock.reading_of_queued_nil rfl, Clock.reading_of_queued_nil rfl, and_self]

theorem evictedBy_serveAll (hlookups : ∀ request ∈ requests, request.IsLookup)
    (store : Store κ ν) (now : Instant) :
    store.EvictedBy (DealsWith requests) now
      (store.serveAll { steady := now } requests).2.1 := by
  induction requests generalizing store with
  | nil =>
      have hnone : ∀ key, ¬DealsWith ([] : List (Request κ ν)) key :=
        fun key hasked => List.not_mem_nil hasked.choose_spec.1
      refine ⟨fun key entry => ?_, rfl, le_rfl⟩
      exact (and_iff_left fun hasked => hnone key hasked.1).symm
  | cons request rest ih =>
      obtain ⟨hlookup, hrest⟩ := List.forall_mem_cons.1 hlookups
      obtain ⟨key, hkey⟩ : ∃ key, request.key? = some key := by
        cases request with
        | get key => exact ⟨key, rfl⟩
        | getWithExpiry key => exact ⟨key, rfl⟩
        | _ => exact hlookup.elim
      have hserve := (serve_of_isLookup hlookup hkey { steady := now }).1 store
      have hasked : DealsWith (request :: rest) =
          fun other => key = other ∨ DealsWith rest other := by
        funext other
        simp only [DealsWith, List.exists_mem_cons_iff, hkey, Option.some.injEq]
      have hclock : (store.lookup key { steady := now }).2.2 = { steady := now } :=
        lookup_clock rfl store key
      simp only [serveAll, hserve, hclock, hasked]
      exact (evictedBy_lookup store now key).trans (ih hrest _)

/-! ### A purge afterwards -/

section Purge

variable (h : before.EvictedBy asked now after)
  (hpurged : before.PurgedBy (fun _ => now) removed purged)
  (hrest : after.PurgedBy (fun _ => now) removed' rest)

include h hpurged

include hrest in
/-- A purge takes out what is left to take out. -/
theorem EvictedBy.purge :
    (∀ key, rest.table.get? key = purged.table.get? key) ∧
      after.counters.lazyEvictions + removed' = before.counters.lazyEvictions + removed := by
  have hget : ∀ key, rest.table.get? key = purged.table.get? key := by
    refine fun key => Option.ext fun entry => ?_
    simp only [hrest.get?_eq, hpurged.get?_eq, Option.filter_eq_some_iff, h.get?_iff,
      decide_eq_true_eq, and_assoc]
    exact and_congr_right fun _ => and_iff_right_of_imp fun hlive hgone => hlive hgone.2
  have hsize : rest.size = purged.size := Table.size_eq_of_get?_eq hget
  have hconserved := h.size_eq
  have hall := hpurged.size_eq
  have hleft := hrest.size_eq
  exact ⟨hget, by omega⟩

/-- Lookups that ask for every expired key leave nothing to take out. -/
theorem EvictedBy.get?_eq_of_all
    (hall : ∀ key entry, before.table.get? key = some entry → entry.ExpiredAt now → asked key)
    (key : κ) : after.table.get? key = purged.table.get? key := by
  refine Option.ext fun entry => ?_
  rw [hpurged.get?_eq, Option.filter_eq_some_iff, h.get?_iff, decide_eq_true_eq]
  refine and_congr_right fun hfound => not_congr ?_
  exact and_iff_right_of_imp (hall key entry hfound)

end Purge

/-- **Lookups and a purge evict alike.** At one time, lookups and a purge after them evict together
as many entries as a purge alone, and leave the same. Lookups that ask for every expired key leave
and count what a purge does, and a purge after them finds nothing to remove. -/
theorem evictions_as_purged (store : Store κ ν) (now : Instant) (requests : List (Request κ ν))
    (hlookups : ∀ request ∈ requests, request.IsLookup) :
    let clock : Clock := { steady := now }
    let looked := (store.serveAll clock requests).2.1
    let purged := store.purge clock
    let rest := looked.purge clock
    (∃ evicted, looked.counters.lazyEvictions = store.counters.lazyEvictions + evicted ∧
      evicted + rest.1 = purged.1) ∧
    (∀ key, rest.2.1.table.get? key = purged.2.1.table.get? key) ∧
    ((∀ key entry, store.table.get? key = some entry → entry.ExpiredAt now →
        ∃ request ∈ requests, request.key? = some key) →
      (∀ key, looked.table.get? key = purged.2.1.table.get? key) ∧
      looked.counters.lazyEvictions = store.counters.lazyEvictions + purged.1 ∧
      rest.1 = 0 ∧ rest.2.1.Alike looked) := by
  intro clock looked purged rest
  have hlooked : store.EvictedBy (DealsWith requests) now looked :=
    evictedBy_serveAll hlookups store now
  have hpurged := purgedBy_purge_steady store now
  have hrest := purgedBy_purge_steady looked now
  obtain ⟨hget, hcount⟩ := hlooked.purge hpurged hrest
  obtain ⟨evicted, hevicted⟩ := Nat.exists_eq_add_of_le hlooked.grows
  refine ⟨⟨evicted, hevicted, ?_⟩, hget, fun hall => ?_⟩
  · rw [hevicted, Nat.add_assoc] at hcount
    exact Nat.add_left_cancel hcount
  · have hsame := hlooked.get?_eq_of_all hpurged hall
    have hnothing : looked.PurgedBy (fun _ => now) 0 looked := by
      refine ⟨fun key => ?_, Nat.zero_add _, rfl⟩
      rw [hsame]
      exact hpurged.rest.get?_eq key
    obtain ⟨hzero, halike⟩ := hrest.unique hnothing
    rw [hzero, Nat.add_zero] at hcount
    exact ⟨hsame, hcount, hzero, halike⟩

/-- An absent key and a key asked for twice; the entry that is still live stays. -/
theorem evictions_as_purged_of_expired_entry :
    let entry : Int → Entry String := fun nanos => { payload := "v", expiresAt := .ofNanos nanos }
    let store : Store String String := { table := { items := [("a", entry 10), ("b", entry 20)] } }
    let requests : List (Request String String) :=
      [.get "b", .getWithExpiry "a", .get "c", .get "a"]
    let now : Instant := .ofNanos 15
    (∀ request ∈ requests, request.IsLookup) ∧
    (∀ key entry, store.table.get? key = some entry → entry.ExpiredAt now →
      ∃ request ∈ requests, request.key? = some key) ∧
    (store.serveAll { steady := now } requests).2.1.counters.lazyEvictions = 1 ∧
    (store.serveAll { steady := now } requests).2.1.table.get? "b" = some (entry 20) := by
  intro entry store requests now
  have hlookups : ∀ request ∈ requests, request.IsLookup := by decide
  have hall : ∀ key entry, store.table.get? key = some entry → entry.ExpiredAt now →
      ∃ request ∈ requests, request.key? = some key := by
    intro key found hfound _
    rw [Table.get?_eq_some_iff] at hfound
    rcases List.mem_cons.1 hfound with heq | hrest
    · obtain ⟨rfl, -⟩ := Prod.mk.inj heq
      exact ⟨.getWithExpiry "a", by simp [requests], rfl⟩
    · obtain ⟨rfl, -⟩ := Prod.mk.inj (List.mem_singleton.1 hrest)
      exact ⟨.get "b", by simp [requests], rfl⟩
  obtain ⟨-, -, hevicted⟩ := evictions_as_purged store now requests hlookups
  obtain ⟨hsame, hcount, -⟩ := hevicted hall
  exact ⟨hlookups, hall, hcount.trans (by decide), (hsame "b").trans (by decide)⟩

end ExpiringCache.Store
