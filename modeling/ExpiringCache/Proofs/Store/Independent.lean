import ExpiringCache.Proofs.Store.Operations
import ExpiringCache.Store.Request
/-!
# Requests that can change places

A put, a lookup or a delete deals with one key: what it answers, leaves under that key and adds to
the counters depends on the entry under the key alone, and no other key notices it. So requests
about different keys can change places. At one time two lookups of one key can as well: the first of
them evicts an expired entry, whichever it is, and neither is told of it.
-/

namespace ExpiringCache

variable {κ ν : Type}

namespace Counters

def add (a b : Counters) : Counters where
  hits := a.hits + b.hits
  misses := a.misses + b.misses
  lazyEvictions := a.lazyEvictions + b.lazyEvictions
  swept := a.swept + b.swept

instance : Add Counters := ⟨add⟩

theorem add_right_comm (a b c : Counters) : a + b + c = a + c + b := by
  change Counters.mk _ _ _ _ = Counters.mk _ _ _ _
  congr 1 <;> exact Nat.add_right_comm _ _ _

end Counters

namespace Request

def key? : Request κ ν → Option κ
  | put key _ _ | get key | getWithExpiry key | delete key => some key
  | purge | size | hitRate => none

def IsLookup : Request κ ν → Prop
  | get _ | getWithExpiry _ => True
  | _ => False

instance : DecidablePred (IsLookup : Request κ ν → Prop)
  | .get _ | .getWithExpiry _ => isTrue trivial
  | .put _ _ _ | .delete _ | .purge | .size | .hitRate => isFalse id

/-- The requests are about different keys, or both look the same key up. -/
structure Independent (first second : Request κ ν) : Prop where
  isSome_left : first.key?.isSome
  isSome_right : second.key?.isSome
  lookups : first.key? = second.key? → first.IsLookup ∧ second.IsLookup

theorem eq_of_isLookup {request : Request κ ν} {key : κ} (h : request.IsLookup)
    (hkey : request.key? = some key) : request = .get key ∨ request = .getWithExpiry key := by
  cases request with
  | get found =>
      obtain rfl := Option.some.inj hkey
      exact Or.inl rfl
  | getWithExpiry found =>
      obtain rfl := Option.some.inj hkey
      exact Or.inr rfl
  | _ => exact h.elim

end Request

/-- One of the requests is about the key. -/
def DealsWith (requests : List (Request κ ν)) (key : κ) : Prop :=
  ∃ request ∈ requests, request.key? = some key

namespace Store

variable [DecidableEq κ]

/-- The stores hold the same under every key, and their counters agree. -/
structure Alike (s t : Store κ ν) : Prop where
  get?_eq : ∀ key, s.table.get? key = t.table.get? key
  counters_eq : s.counters = t.counters

variable {s t u : Store κ ν} {clock : Clock} {key other : κ} {request first second : Request κ ν}

theorem Alike.refl (s : Store κ ν) : s.Alike s := ⟨fun _ => rfl, rfl⟩

theorem Alike.trans (h : s.Alike t) (h' : t.Alike u) : s.Alike u :=
  ⟨fun key => (h.get?_eq key).trans (h'.get?_eq key), h.counters_eq.trans h'.counters_eq⟩

theorem Alike.stats_eq (h : s.Alike t) : s.stats = t.stats := by
  have hsize : s.size = t.size := Table.size_eq_of_get?_eq h.get?_eq
  rw [stats, stats, h.counters_eq, hsize]

/-! ### One key -/

theorem get?_serve_of_ne (hkey : request.key? = some key) (hne : other ≠ key)
    (store : Store κ ν) (clock : Clock) :
    (store.serve clock request).2.1.table.get? other = store.table.get? other := by
  have hlookup : (store.lookup key clock).2.1.table.get? other = store.table.get? other := by
    refine Option.ext fun entry => ?_
    rw [get?_lookup]
    exact and_iff_left fun h => hne h.1.symm
  cases request with
  | put found payload ttl =>
      obtain rfl := Option.some.inj hkey
      exact Table.get?_insert_of_ne _ hne _
  | get found =>
      obtain rfl := Option.some.inj hkey
      exact hlookup
  | getWithExpiry found =>
      obtain rfl := Option.some.inj hkey
      exact hlookup
  | delete found =>
      obtain rfl := Option.some.inj hkey
      exact Table.get?_erase_of_ne _ hne
  | purge => cases hkey
  | size => cases hkey
  | hitRate => cases hkey

/-- What happens under a key is the same, with the same gain in the counters. -/
structure SameAt (key : κ) (s t s' t' : Store κ ν) : Prop where
  get?_eq : s'.table.get? key = t'.table.get? key
  gain : ∃ gain : Counters, s'.counters = s.counters + gain ∧ t'.counters = t.counters + gain

theorem evictExpired_same (h : s.table.get? key = t.table.get? key) (now : Instant) :
    SameAt key s t (s.evictExpired key now) (t.evictExpired key now) := by
  cases hs : s.table.get? key with
  | none =>
      have ht : t.table.get? key = none := h.symm.trans hs
      simp only [evictExpired, hs, ht]
      exact ⟨h, {}, rfl, rfl⟩
  | some entry =>
      have ht : t.table.get? key = some entry := h.symm.trans hs
      simp only [evictExpired, hs, ht]
      by_cases hexpired : entry.ExpiredAt now
      · rw [if_pos hexpired, if_pos hexpired]
        refine ⟨?_, { lazyEvictions := 1 }, rfl, rfl⟩
        rw [Table.get?_erase_self, Table.get?_erase_self]
      · rw [if_neg hexpired, if_neg hexpired]
        exact ⟨h, {}, rfl, rfl⟩

theorem SameAt.recordMiss {s' t' : Store κ ν} (h : SameAt key s t s' t') :
    SameAt key s t s'.recordMiss t'.recordMiss := by
  obtain ⟨hget, gain, hs, ht⟩ := h
  refine ⟨hget, gain + { misses := 1 }, ?_, ?_⟩
  · change s'.counters + { misses := 1 } = _
    rw [hs]
    rfl
  · change t'.counters + { misses := 1 } = _
    rw [ht]
    rfl

theorem lookup_same (h : s.table.get? key = t.table.get? key) (clock : Clock) :
    (s.lookup key clock).1 = (t.lookup key clock).1 ∧
      SameAt key s t (s.lookup key clock).2.1 (t.lookup key clock).2.1 := by
  cases hs : s.table.get? key with
  | none =>
      have ht : t.table.get? key = none := h.symm.trans hs
      rw [lookup_of_none hs, lookup_of_none ht]
      exact ⟨rfl, h, { misses := 1 }, rfl, rfl⟩
  | some entry =>
      have ht : t.table.get? key = some entry := h.symm.trans hs
      by_cases hexpired : entry.ExpiredAt (clock.reading 0)
      · rw [lookup_of_expired hs hexpired, lookup_of_expired ht hexpired]
        exact ⟨rfl, (evictExpired_same h _).recordMiss⟩
      · rw [lookup_of_live hs hexpired, lookup_of_live ht hexpired]
        exact ⟨rfl, h, { hits := 1 }, rfl, rfl⟩

/-- A request about a key sees nothing but the entry under it. -/
theorem serve_same (hkey : request.key? = some key) (h : s.table.get? key = t.table.get? key)
    (clock : Clock) :
    (s.serve clock request).1 = (t.serve clock request).1 ∧
      SameAt key s t (s.serve clock request).2.1 (t.serve clock request).2.1 := by
  cases request with
  | put found payload ttl =>
      obtain rfl := Option.some.inj hkey
      refine ⟨rfl, ?_, {}, rfl, rfl⟩
      exact (Table.get?_insert_self _ _ _).trans (Table.get?_insert_self _ _ _).symm
  | get found =>
      obtain rfl := Option.some.inj hkey
      obtain ⟨hfound, hafter⟩ := lookup_same h clock
      have htold : (s.serve clock (.get found)).1 = (t.serve clock (.get found)).1 := by
        simp only [serve, hfound]
      exact ⟨htold, hafter⟩
  | getWithExpiry found =>
      obtain rfl := Option.some.inj hkey
      obtain ⟨hfound, hafter⟩ := lookup_same h clock
      exact ⟨congrArg Response.entry hfound, hafter⟩
  | delete found =>
      obtain rfl := Option.some.inj hkey
      have htold : (s.serve clock (.delete found)).1 = (t.serve clock (.delete found)).1 := by
        simp only [serve, delete, h]
      refine ⟨htold, ?_, {}, rfl, rfl⟩
      exact (Table.get?_erase_self _ _).trans (Table.get?_erase_self _ _).symm
  | purge => cases hkey
  | size => cases hkey
  | hitRate => cases hkey

theorem Alike.serve (h : s.Alike t) (hkey : request.key?.isSome) (clock : Clock) :
    (s.serve clock request).1 = (t.serve clock request).1 ∧
      (s.serve clock request).2.1.Alike (t.serve clock request).2.1 := by
  obtain ⟨key, hkey⟩ := Option.isSome_iff_exists.1 hkey
  obtain ⟨hresponse, hget, gain, hs, ht⟩ := serve_same hkey (h.get?_eq key) clock
  refine ⟨hresponse, fun other => ?_, by rw [hs, ht, h.counters_eq]⟩
  by_cases hother : other = key
  · rw [hother, hget]
  · rw [get?_serve_of_ne hkey hother, get?_serve_of_ne hkey hother, h.get?_eq]

/-! ### Two requests -/

theorem serve_of_isLookup (hlookup : request.IsLookup) (hkey : request.key? = some key)
    (clock : Clock) :
    (∀ store : Store κ ν, (store.serve clock request).2 = (store.lookup key clock).2) ∧
      ∀ s t : Store κ ν, (s.lookup key clock).1 = (t.lookup key clock).1 →
        (s.serve clock request).1 = (t.serve clock request).1 := by
  rcases Request.eq_of_isLookup hlookup hkey with rfl | rfl
  · exact ⟨fun _ => rfl, fun s t h => by simp only [serve, h]⟩
  · exact ⟨fun _ => rfl, fun s t h => by simp only [serve, h]⟩

/-- At one time a lookup finds what the one before it found. -/
theorem lookup_lookup (store : Store κ ν) (clock : Clock) (key : κ) :
    ((store.lookup key clock).2.1.lookup key clock).1 = (store.lookup key clock).1 := by
  refine Option.ext fun entry => ?_
  rw [lookup_fst_eq_some_iff, lookup_fst_eq_some_iff, get?_lookup, and_assoc]
  refine and_congr_right fun _ => and_iff_right_of_imp fun hlive hremoved => ?_
  exact Entry.not_expiredAt.2 hlive hremoved.2.1

theorem serve_comm (h : first.Independent second) (store : Store κ ν) (clock : Clock) :
    ((store.serve clock first).2.1.serve clock second).1 = (store.serve clock second).1 ∧
      ((store.serve clock second).2.1.serve clock first).1 = (store.serve clock first).1 ∧
      ((store.serve clock first).2.1.serve clock second).2.1.Alike
        ((store.serve clock second).2.1.serve clock first).2.1 := by
  obtain ⟨key, hfirst⟩ := Option.isSome_iff_exists.1 h.isSome_left
  obtain ⟨key', hsecond⟩ := Option.isSome_iff_exists.1 h.isSome_right
  by_cases hkey : key = key'
  · -- Two lookups of one key: only the second run of the same lookup comes after the first.
    subst hkey
    obtain ⟨hlookup, hlookup'⟩ := h.lookups (hfirst.trans hsecond.symm)
    obtain ⟨hafter, htold⟩ := serve_of_isLookup hlookup hfirst clock
    obtain ⟨hafter', htold'⟩ := serve_of_isLookup hlookup' hsecond clock
    have hagain := lookup_lookup store clock key
    rw [hafter, hafter', hafter, hafter']
    exact ⟨htold' _ _ hagain, htold _ _ hagain, Alike.refl _⟩
  · have hleft := get?_serve_of_ne hfirst (Ne.symm hkey) store clock
    have hright := get?_serve_of_ne hsecond hkey store clock
    obtain ⟨htold, hget, gain, hs, hs'⟩ := serve_same hfirst hright clock
    obtain ⟨htold', hget', gain', ht, ht'⟩ := serve_same hsecond hleft clock
    refine ⟨htold', htold, fun other => ?_, ?_⟩
    · by_cases hother : other = key
      · subst hother
        rw [get?_serve_of_ne hsecond hkey, hget]
      · by_cases hother' : other = key'
        · subst hother'
          rw [get?_serve_of_ne hfirst hother, hget']
        · rw [get?_serve_of_ne hsecond hother', get?_serve_of_ne hfirst hother,
            get?_serve_of_ne hfirst hother, get?_serve_of_ne hsecond hother']
    · rw [ht, hs, hs', ht', Counters.add_right_comm]

end Store

end ExpiringCache
