import ExpiringCache.Proofs.Store.Operations
/-!
# Lookups in flight

A lookup that finds an expired entry lets go of it before it removes what stands under the key.
Here the two steps are apart, so any number of lookups can be under way while other callers write,
delete and purge. A lookup in flight is no more than the key it is about: the entry it has seen
plays no part in its second step, which asks the table again.

Every move is described by what it reports: the entries that came in and went out, and why.
`Accounted` puts two states side by side with the report of what happened between them; accounts add
up, so one for each move is enough.
-/

namespace ExpiringCache

variable {κ ν : Type}

/-- A store and the keys of the lookups that are still to remove an expired entry. -/
structure InFlight (κ ν : Type) where
  store : Store κ ν := {}
  pending : List κ := []

namespace InFlight

inductive Move (κ ν : Type) where
  /-- The first step of a lookup. -/
  | observe (key : κ) (now : Instant)
  /-- The second step of the lookup that is in flight at a place. -/
  | evict (flight : Nat) (now : Instant)
  | put (key : κ) (payload : ν) (ttl : Duration) (clock : Clock)
  | delete (key : κ)
  | purge (clock : Clock)

inductive Cause where
  | replaced
  | deleted
  /-- Evicted by a lookup, at its second reading. -/
  | evicted (now : Instant)
  | swept

def Cause.isEviction : Cause → Bool
  | evicted _ => true
  | _ => false

def Cause.isSweep : Cause → Bool
  | swept => true
  | _ => false

def Cause.isReplacement : Cause → Bool
  | replaced => true
  | _ => false

def Cause.isDeletion : Cause → Bool
  | deleted => true
  | _ => false

structure Departure (κ ν : Type) where
  cause : Cause
  item : κ × Entry ν

structure Report (κ ν : Type) where
  stored : List (κ × Entry ν) := []
  departures : List (Departure κ ν) := []
  /-- The keys of the puts that found no entry. -/
  additions : List κ := []
  /-- The keys of the deletes that found an entry. -/
  deletions : List κ := []
  lookups : List κ := []

instance : Append (Report κ ν) where
  append first second :=
    { stored := first.stored ++ second.stored
      departures := first.departures ++ second.departures
      additions := first.additions ++ second.additions
      deletions := first.deletions ++ second.deletions
      lookups := first.lookups ++ second.lookups }

def expired (items : List (κ × Entry ν)) (readings : List Instant) : List (κ × Entry ν) :=
  ((items.zip readings).filter fun (item, now) => item.2.ExpiredAt now).map Prod.fst

/-- The second state comes from the first by what the report says. -/
structure Accounted (before after : InFlight κ ν) (report : Report κ ν) : Prop where
  stored : (before.store.table.items ++ report.stored).Perm
    (after.store.table.items ++ report.departures.map Departure.item)
  evictions : after.store.counters.lazyEvictions =
    before.store.counters.lazyEvictions + report.departures.countP (·.cause.isEviction)
  swept : after.store.counters.swept =
    before.store.counters.swept + report.departures.countP (·.cause.isSweep)
  additions : report.stored.length =
    report.additions.length + report.departures.countP (·.cause.isReplacement)
  deletions : report.deletions.length = report.departures.countP (·.cause.isDeletion)
  lookups : after.store.counters.hits + after.store.counters.misses + after.pending.length =
    before.store.counters.hits + before.store.counters.misses + before.pending.length +
      report.lookups.length

theorem accounted_self (state : InFlight κ ν) : Accounted state state {} :=
  ⟨List.Perm.refl _, rfl, rfl, rfl, rfl, rfl⟩

theorem perm_swap_right {α : Type} (first second third : List α) :
    (first ++ second ++ third).Perm (first ++ third ++ second) := by
  have hswap : (second ++ third).Perm (third ++ second) := List.perm_append_comm
  simpa only [List.append_assoc] using hswap.append_left first

theorem Accounted.append {before between after : InFlight κ ν} {first second : Report κ ν}
    (h : Accounted before between first) (h' : Accounted between after second) :
    Accounted before after (first ++ second) where
  stored := by
    change (_ ++ (first.stored ++ second.stored)).Perm
      (_ ++ (first.departures ++ second.departures).map Departure.item)
    have hfirst := h.stored.append_right second.stored
    have hsecond := h'.stored.append_right (first.departures.map Departure.item)
    rw [List.map_append, ← List.append_assoc, ← List.append_assoc]
    apply hfirst.trans
    apply (perm_swap_right _ _ _).trans
    apply hsecond.trans
    exact perm_swap_right _ _ _
  evictions := by
    change _ = _ + (first.departures ++ second.departures).countP _
    rw [h'.evictions, h.evictions, List.countP_append, Nat.add_assoc]
  swept := by
    change _ = _ + (first.departures ++ second.departures).countP _
    rw [h'.swept, h.swept, List.countP_append, Nat.add_assoc]
  additions := by
    change (first.stored ++ second.stored).length = (first.additions ++ second.additions).length +
      (first.departures ++ second.departures).countP _
    have hfirst := h.additions
    have hsecond := h'.additions
    rw [List.length_append, List.length_append, List.countP_append]
    omega
  deletions := by
    change (first.deletions ++ second.deletions).length =
      (first.departures ++ second.departures).countP _
    rw [List.length_append, List.countP_append, h.deletions, h'.deletions]
  lookups := by
    change _ = _ + (first.lookups ++ second.lookups).length
    rw [h'.lookups, h.lookups, List.length_append, Nat.add_assoc]

theorem length_departures (departures : List (Departure κ ν)) :
    departures.length = departures.countP (·.cause.isReplacement) +
      departures.countP (·.cause.isDeletion) + departures.countP (·.cause.isEviction) +
      departures.countP (·.cause.isSweep) := by
  induction departures with
  | nil => rfl
  | cons departure rest ih =>
      obtain ⟨cause, item⟩ := departure
      simp only [List.length_cons, List.countP_cons, ih]
      cases cause <;> simp only [Cause.isReplacement, Cause.isDeletion, Cause.isEviction,
        Cause.isSweep, if_true, Bool.false_eq_true, if_false] <;> omega

theorem Accounted.size_eq {before after : InFlight κ ν} {report : Report κ ν}
    (h : Accounted before after report) :
    after.store.size + report.deletions.length + after.store.counters.lazyEvictions +
        after.store.counters.swept =
      before.store.size + report.additions.length + before.store.counters.lazyEvictions +
        before.store.counters.swept := by
  have hlength := h.stored.length_eq
  have hdepartures := length_departures report.departures
  have hadditions := h.additions
  have hdeletions := h.deletions
  have hevictions := h.evictions
  have hswept := h.swept
  rw [List.length_append, List.length_append, List.length_map] at hlength
  change _ + _ = after.store.size + _ at hlength
  change before.store.size + _ = _ at hlength
  omega

theorem perm_survivors_expired {items : List (κ × Entry ν)} {readings : List Instant}
    (h : readings.length = items.length) :
    items.Perm (Store.survivors items readings ++ expired items readings) := by
  have hsplit := List.filter_append_perm
    (fun (item : (κ × Entry ν) × Instant) => decide ¬item.1.2.ExpiredAt item.2)
    (items.zip readings)
  have hitems := hsplit.map Prod.fst
  rw [List.map_append, List.map_fst_zip h.ge] at hitems
  simpa [Store.survivors, expired] using hitems.symm

variable [DecidableEq κ]

def next (state : InFlight κ ν) : Move κ ν → InFlight κ ν
  | .observe key now =>
    match state.store.table.get? key with
    | none => { state with store := state.store.recordMiss }
    | some entry =>
      if entry.ExpiredAt now then { state with pending := state.pending ++ [key] }
      else { state with store := state.store.recordHit }
  | .evict flight now =>
    match state.pending[flight]? with
    | none => state
    | some key =>
      { store := (state.store.evictExpired key now).recordMiss
        pending := state.pending.eraseIdx flight }
  | .put key payload ttl clock => { state with store := (state.store.put key payload ttl clock).1 }
  | .delete key => { state with store := (state.store.delete key).2 }
  | .purge clock => { state with store := (state.store.purge clock).2.1 }

def departing (store : Store κ ν) (key : κ) (cause : Cause) : List (Departure κ ν) :=
  (store.table.get? key).toList.map fun entry => { cause, item := (key, entry) }

def report (state : InFlight κ ν) : Move κ ν → Report κ ν
  | .observe key _ => { lookups := [key] }
  | .evict flight now =>
    { departures := state.pending[flight]?.toList.flatMap fun key =>
        (departing state.store key (.evicted now)).filter fun departure =>
          departure.item.2.ExpiredAt now }
  | .put key payload ttl clock =>
    { stored := [(key, (Entry.fresh payload ttl clock).1)]
      departures := departing state.store key .replaced
      additions := if (state.store.table.get? key).isNone then [key] else [] }
  | .delete key =>
    { departures := departing state.store key .deleted
      deletions := if (state.store.delete key).1 then [key] else [] }
  | .purge clock =>
    { departures := (expired state.store.table.items (clock.readings state.store.size).1).map
        fun item => { cause := .swept, item } }

def run (state : InFlight κ ν) : List (Move κ ν) → InFlight κ ν
  | [] => state
  | move :: rest => (state.next move).run rest

def reports (state : InFlight κ ν) : List (Move κ ν) → Report κ ν
  | [] => {}
  | move :: rest => state.report move ++ (state.next move).reports rest

/-! ### Evictions -/

variable {state : InFlight κ ν} {store : Store κ ν} {key : κ} {entry : Entry ν} {now : Instant}
  {flight : Nat} {moves : List (Move κ ν)}

/-- A lookup is its two steps with nothing between them. -/
theorem run_observe_evict (store : Store κ ν) (key : κ) (clock : Clock) :
    run { store } [.observe key (clock.reading 0), .evict 0 (clock.reading 1)] =
      { store := (store.lookup key clock).2.1 } := by
  cases h : store.table.get? key with
  | none => simp [run, next, h, Store.lookup_of_none h]
  | some entry =>
      by_cases hexpired : entry.ExpiredAt (clock.reading 0)
      · simp [run, next, h, hexpired, Store.lookup_of_expired h hexpired]
      · simp [run, next, h, hexpired, Store.lookup_of_live h hexpired]

/-- Whatever a lookup in flight has seen, it removes no entry that is live when it does. -/
theorem get?_next_evict (hfound : state.store.table.get? key = some entry)
    (hlive : ¬entry.ExpiredAt now) (flight : Nat) :
    (state.next (.evict flight now)).store.table.get? key = some entry := by
  cases hflight : state.pending[flight]? with
  | none => simpa only [next, hflight] using hfound
  | some found =>
      simp only [next, hflight]
      change (state.store.evictExpired found now).table.get? key = some entry
      by_cases hkey : key = found
      · subst hkey
        exact Store.get?_evictExpired_self.2 ⟨hfound, hlive⟩
      · exact (Store.get?_evictExpired_of_ne _ hkey now).trans hfound

theorem expiredAt_of_departure (move : Move κ ν) {departure : Departure κ ν}
    (hmem : departure ∈ (state.report move).departures) (hcause : departure.cause = .evicted now) :
    departure.item.2.ExpiredAt now := by
  have hdeparting : ∀ key cause, departure ∈ departing state.store key cause →
      departure.cause = cause := by
    intro key cause h
    obtain ⟨entry, -, rfl⟩ := List.mem_map.1 h
    rfl
  cases move with
  | observe key now => exact absurd hmem List.not_mem_nil
  | evict flight later =>
      obtain ⟨key, -, hmem⟩ := List.mem_flatMap.1 hmem
      obtain ⟨hmem, hexpired⟩ := List.mem_filter.1 hmem
      obtain rfl := Cause.evicted.inj ((hdeparting _ _ hmem).symm.trans hcause)
      exact of_decide_eq_true hexpired
  | put key payload ttl clock => exact Cause.noConfusion ((hdeparting _ _ hmem).symm.trans hcause)
  | delete key => exact Cause.noConfusion ((hdeparting _ _ hmem).symm.trans hcause)
  | purge clock =>
      obtain ⟨item, -, rfl⟩ := List.mem_map.1 hmem
      exact Cause.noConfusion hcause

/-! ### One move -/

theorem departing_of_none (h : store.table.get? key = none) (cause : Cause) :
    departing store key cause = [] := by
  rw [departing, h]
  rfl

theorem departing_of_some (h : store.table.get? key = some entry) (cause : Cause) :
    departing store key cause = [{ cause, item := (key, entry) }] := by
  rw [departing, h]
  rfl

theorem map_item_departing (store : Store κ ν) (key : κ) (cause : Cause) :
    (departing store key cause).map Departure.item =
      (store.table.get? key).toList.map fun entry => (key, entry) := by
  rw [departing, List.map_map]
  rfl

theorem accounted_observe (state : InFlight κ ν) (key : κ) (now : Instant) :
    Accounted state (state.next (.observe key now)) (state.report (.observe key now)) := by
  simp only [next, report]
  cases state.store.table.get? key with
  | none => exact ⟨List.Perm.refl _, rfl, rfl, rfl, rfl, by simp only [Store.recordMiss]; grind⟩
  | some entry =>
      by_cases hexpired : entry.ExpiredAt now
      · simp only [hexpired, if_true]
        exact ⟨List.Perm.refl _, rfl, rfl, rfl, rfl, by grind⟩
      · simp only [hexpired, if_false]
        exact ⟨List.Perm.refl _, rfl, rfl, rfl, rfl, by simp only [Store.recordHit]; grind⟩

theorem accounted_evict (state : InFlight κ ν) (flight : Nat) (now : Instant) :
    Accounted state (state.next (.evict flight now)) (state.report (.evict flight now)) := by
  simp only [next, report]
  cases hflight : state.pending[flight]? with
  | none => exact accounted_self state
  | some key =>
      -- What the first step has seen is forgotten: the entry there is now decides.
      have hlt : flight < state.pending.length := (List.getElem?_eq_some_iff.1 hflight).1
      have hpending := List.length_eraseIdx_of_lt hlt
      simp only [Option.toList_some, List.flatMap_cons, List.flatMap_nil, List.append_nil]
      cases hfound : state.store.table.get? key with
      | none =>
          simp only [departing_of_none hfound, Store.evictExpired, hfound, List.filter_nil]
          refine ⟨List.Perm.refl _, rfl, rfl, rfl, rfl, ?_⟩
          simp only [Store.recordMiss, hpending, List.length_nil]
          omega
      | some entry =>
          simp only [departing_of_some hfound, Store.evictExpired, hfound]
          by_cases hexpired : entry.ExpiredAt now
          · have herase := state.store.table.perm_erase key
            rw [hfound] at herase
            simp only [hexpired, if_true, List.filter_cons, decide_true, List.filter_nil]
            refine ⟨?_, rfl, rfl, rfl, rfl, ?_⟩
            · simpa [Store.recordMiss] using herase
            · simp only [Store.recordMiss, hpending, List.length_nil]
              omega
          · simp only [hexpired, if_false, List.filter_cons, decide_false, List.filter_nil]
            refine ⟨List.Perm.refl _, rfl, rfl, rfl, rfl, ?_⟩
            simp only [Store.recordMiss, hpending, List.length_nil]
            omega

theorem accounted_put (state : InFlight κ ν) (key : κ) (payload : ν) (ttl : Duration)
    (clock : Clock) :
    Accounted state (state.next (.put key payload ttl clock))
      (state.report (.put key payload ttl clock)) := by
  have herase := state.store.table.perm_erase key
  rw [← map_item_departing state.store key .replaced] at herase
  have hstored : (state.store.table.items ++ [(key, (Entry.fresh payload ttl clock).1)]).Perm
      (((key, (Entry.fresh payload ttl clock).1) :: (state.store.table.erase key).items) ++
        (departing state.store key .replaced).map Departure.item) :=
    List.perm_append_comm.trans (herase.cons _)
  simp only [next, report]
  cases hfound : state.store.table.get? key with
  | none =>
      rw [departing_of_none hfound] at hstored ⊢
      exact ⟨hstored, rfl, rfl, rfl, rfl, rfl⟩
  | some entry =>
      rw [departing_of_some hfound] at hstored ⊢
      exact ⟨hstored, rfl, rfl, rfl, rfl, rfl⟩

theorem accounted_delete (state : InFlight κ ν) (key : κ) :
    Accounted state (state.next (.delete key)) (state.report (.delete key)) := by
  have herase := state.store.table.perm_erase key
  rw [← map_item_departing state.store key .deleted] at herase
  have hstored : (state.store.table.items ++ []).Perm
      ((state.store.table.erase key).items ++
        (departing state.store key .deleted).map Departure.item) := by
    rwa [List.append_nil]
  simp only [next, report]
  cases hfound : state.store.table.get? key with
  | none =>
      have habsent : (state.store.delete key).1 = false := congrArg Option.isSome hfound
      rw [departing_of_none hfound] at hstored ⊢
      rw [habsent]
      exact ⟨hstored, rfl, rfl, rfl, rfl, rfl⟩
  | some entry =>
      have hpresent : (state.store.delete key).1 = true := congrArg Option.isSome hfound
      rw [departing_of_some hfound] at hstored ⊢
      rw [hpresent]
      exact ⟨hstored, rfl, rfl, rfl, rfl, rfl⟩

theorem accounted_purge (state : InFlight κ ν) (clock : Clock) :
    Accounted state (state.next (.purge clock)) (state.report (.purge clock)) := by
  let readings := (clock.readings state.store.size).1
  have hreadings : readings.length = state.store.table.items.length := clock.length_readings _
  have hkept := perm_survivors_expired hreadings
  have hcount : ∀ (p : Cause → Bool) (items : List (κ × Entry ν)),
      (items.map fun item => ({ cause := .swept, item } : Departure κ ν)).countP (p ·.cause) =
        if p .swept then items.length else 0 := by
    intro p items
    rw [List.countP_map]
    cases h : p .swept <;> simp [Function.comp_def, h]
  have hitems : ∀ items : List (κ × Entry ν),
      (items.map fun item => ({ cause := .swept, item } : Departure κ ν)).map Departure.item =
        items := by
    intro items
    rw [List.map_map]
    exact List.map_id items
  have hsize : state.store.size - (Store.survivors state.store.table.items readings).length =
      (expired state.store.table.items readings).length := by
    have hlength := hkept.length_eq
    rw [List.length_append] at hlength
    change state.store.table.items.length - _ = _
    omega
  simp only [next, report]
  refine ⟨?_, ?_, ?_, ?_, ?_, rfl⟩
  · rw [hitems, List.append_nil]
    exact hkept
  · rw [hcount]
    rfl
  · rw [hcount]
    exact congrArg (state.store.counters.swept + ·) hsize
  · rw [hcount]
    rfl
  · rw [hcount]
    rfl

theorem accounted_next (state : InFlight κ ν) (move : Move κ ν) :
    Accounted state (state.next move) (state.report move) := by
  cases move with
  | observe key now => exact accounted_observe state key now
  | evict flight now => exact accounted_evict state flight now
  | put key payload ttl clock => exact accounted_put state key payload ttl clock
  | delete key => exact accounted_delete state key
  | purge clock => exact accounted_purge state clock

/-! ### Runs -/

theorem accounted_run (state : InFlight κ ν) (moves : List (Move κ ν)) :
    Accounted state (state.run moves) (state.reports moves) := by
  induction moves generalizing state with
  | nil => exact accounted_self state
  | cons move rest ih => exact (accounted_next state move).append (ih _)

theorem expiredAt_of_evicted (state : InFlight κ ν) (moves : List (Move κ ν))
    {departure : Departure κ ν} (hmem : departure ∈ (state.reports moves).departures)
    (hcause : departure.cause = .evicted now) : departure.item.2.ExpiredAt now := by
  induction moves generalizing state with
  | nil => exact absurd hmem List.not_mem_nil
  | cons move rest ih =>
      rcases List.mem_append.1 hmem with hfirst | hrest
      · exact expiredAt_of_departure move hfirst hcause
      · exact ih _ hrest

/-- **Lookups in flight lose no entry and count none twice.** A lookup is its two steps. Whatever
happens between them, and however many lookups are under way, the second step leaves a live entry as
it is, and what lookups evicted was expired at the reading of that step. Every entry that was stored
is present or left once, each eviction is one more in the counter, the entries present are those
added and neither deleted nor evicted nor swept, and every lookup that is no longer in flight is a
hit or a miss. -/
theorem lookups_in_flight (moves : List (Move κ ν)) :
    let last := run ({} : InFlight κ ν) moves
    let report := reports ({} : InFlight κ ν) moves
    let counters := last.store.counters
    (∀ (store : Store κ ν) key clock,
      run { store } [.observe key (clock.reading 0), .evict 0 (clock.reading 1)] =
        { store := (store.lookup key clock).2.1 }) ∧
      (∀ key entry flight now, last.store.table.get? key = some entry → ¬entry.ExpiredAt now →
        (last.next (.evict flight now)).store.table.get? key = some entry) ∧
      (∀ departure ∈ report.departures, ∀ now, departure.cause = .evicted now →
        departure.item.2.ExpiredAt now) ∧
      report.stored.Perm (last.store.table.items ++ report.departures.map Departure.item) ∧
      counters.lazyEvictions = report.departures.countP (·.cause.isEviction) ∧
      last.store.size + report.deletions.length + counters.lazyEvictions + counters.swept =
        report.additions.length ∧
      counters.hits + counters.misses + last.pending.length = report.lookups.length := by
  intro last report counters
  have haccounted := accounted_run ({} : InFlight κ ν) moves
  refine ⟨run_observe_evict, ?_, ?_, haccounted.stored, ?_, ?_, ?_⟩
  · intro key entry flight now hfound hlive
    exact get?_next_evict hfound hlive flight
  · intro departure hmem now hcause
    exact expiredAt_of_evicted _ moves hmem hcause
  · exact haccounted.evictions.trans (Nat.zero_add _)
  · have hsize := haccounted.size_eq
    have hempty : ({} : InFlight κ ν).store.size = 0 := rfl
    rw [hempty, Nat.zero_add] at hsize
    exact hsize
  · exact haccounted.lookups.trans (Nat.zero_add _)

end InFlight

end ExpiringCache
