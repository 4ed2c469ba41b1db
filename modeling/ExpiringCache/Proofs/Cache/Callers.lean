import ExpiringCache.Proofs.Cache.Course
import ExpiringCache.Proofs.Store.Counts
import ExpiringCache.Proofs.Store.Interleaving
/-!
# Independent callers

Several callers put, look up and delete, and a key that two of them deal with is only looked up.
Then no interleaving of their requests can be told from serving the callers in turn: their requests
are the same list for each caller, so the two orders agree. A shared key with an expired entry makes
no difference either; the first lookup of it, whoever makes it, evicts the entry, and the others
find none.
-/

namespace ExpiringCache

variable {κ ν : Type}

def OnlyLookedUp (requests : List (Request κ ν)) (key : κ) : Prop :=
  ∀ request ∈ requests, request.key? = some key → request.IsLookup

/-- The requests about the key that were served found no entry. -/
def Missed (key : κ) (served : List (Request κ ν × Response ν)) : Prop :=
  ∀ answer ∈ served, answer.1.key? = some key → answer.2.isMiss

/-! ### Evictions -/

namespace Store

variable [DecidableEq κ]

def takenOut (store : Store κ ν) (clock : Clock) (request : Request κ ν) : List κ :=
  if request.IsLookup then
    request.key?.toList.filter fun key => (store.table.get? key).isSome &&
      ((store.serve clock request).2.1.table.get? key).isNone
  else []

/-- The keys whose entries lookups take out, one for each entry. -/
def evicted (store : Store κ ν) (clock : Clock) : List (Request κ ν) → List κ
  | [] => []
  | request :: rest =>
    let (_, after, later) := store.serve clock request
    store.takenOut clock request ++ after.evicted later rest

variable {store : Store κ ν} {clock : Clock} {request : Request κ ν} {key : κ} {entry : Entry ν}
  {requests : List (Request κ ν)}

theorem mem_takenOut : key ∈ store.takenOut clock request ↔
    request.IsLookup ∧ request.key? = some key ∧ (store.table.get? key).isSome ∧
      ((store.serve clock request).2.1.table.get? key).isNone := by
  by_cases hlookup : request.IsLookup <;> simp [takenOut, hlookup]

theorem nodup_takenOut (store : Store κ ν) (clock : Clock) (request : Request κ ν) :
    (store.takenOut clock request).Nodup := by
  unfold takenOut
  split
  · refine List.Nodup.filter _ ?_
    cases request.key? <;> simp
  · exact List.nodup_nil

theorem lazyEvictions_lookup (store : Store κ ν) (clock : Clock) (request : Request κ ν)
    (hlookup : request.IsLookup) (hkey : request.key? = some key) :
    (store.serve clock request).2.1.counters.lazyEvictions =
      store.counters.lazyEvictions + (store.takenOut clock request).length := by
  have hafter := congrArg Prod.fst ((serve_of_isLookup hlookup hkey clock).1 store)
  simp only [takenOut, hlookup, hkey, hafter, if_true, Option.toList_some]
  cases h : store.table.get? key with
  | none => simp [lookup_of_none h, recordMiss, h]
  | some entry =>
      by_cases hexpired : entry.ExpiredAt (clock.reading 0)
      · by_cases hlater : entry.ExpiredAt (clock.reading 1)
        · simp [lookup_of_expired h hexpired, evictExpired, recordMiss, h, hlater]
        · simp [lookup_of_expired h hexpired, evictExpired, recordMiss, h, hlater]
      · simp [lookup_of_live h hexpired, recordHit, h]

/-- Every entry that lookups take out is counted once. -/
theorem lazyEvictions_serveAll (store : Store κ ν) (clock : Clock)
    (requests : List (Request κ ν)) :
    (store.serveAll clock requests).2.1.counters.lazyEvictions =
      store.counters.lazyEvictions + (store.evicted clock requests).length := by
  induction requests generalizing store clock with
  | nil => rfl
  | cons request rest ih =>
      have hstep : (store.serve clock request).2.1.counters.lazyEvictions =
          store.counters.lazyEvictions + (store.takenOut clock request).length := by
        cases request with
        | get key => exact store.lazyEvictions_lookup clock (.get key) trivial rfl
        | getWithExpiry key =>
            exact store.lazyEvictions_lookup clock (.getWithExpiry key) trivial rfl
        | _ => rfl
      simp only [serveAll, evicted, ih, hstep, List.length_append, Nat.add_assoc]

/-! ### Keys that are only looked up -/

theorem isMiss_serve (hlookup : request.IsLookup) (hkey : request.key? = some key)
    (hnone : (store.lookup key clock).1 = none) : (store.serve clock request).1.isMiss := by
  rcases Request.eq_of_isLookup hlookup hkey with rfl | rfl
  · simp only [serve, hnone]
    rfl
  · simp only [serve, hnone]
    rfl

theorem not_mem_takenOut_of_none (h : store.table.get? key = none) :
    key ∉ store.takenOut clock request := fun hmem => by
  rw [mem_takenOut, h] at hmem
  exact Bool.false_ne_true hmem.2.2.1

theorem get?_serve_of_key?_ne (hsome : request.key?.isSome) (hne : request.key? ≠ some key)
    (store : Store κ ν) (clock : Clock) :
    (store.serve clock request).2.1.table.get? key = store.table.get? key := by
  obtain ⟨other, hother⟩ := Option.isSome_iff_exists.1 hsome
  exact get?_serve_of_ne hother (fun heq : key = other => hne (heq ▸ hother)) store clock

section Lookup

variable (hlookup : request.IsLookup) (hkey : request.key? = some key)

include hlookup hkey

theorem serve_of_absent (habsent : store.table.get? key = none) :
    (store.serve clock request).1.isMiss ∧
      (store.serve clock request).2.1.table.get? key = none := by
  have hafter := congrArg Prod.fst ((serve_of_isLookup hlookup hkey clock).1 store)
  have hnone := lookup_of_none habsent clock
  rw [hafter, hnone]
  exact ⟨isMiss_serve hlookup hkey (by rw [hnone]), habsent⟩

theorem serve_of_expired (hqueued : clock.queued = []) (hfound : store.table.get? key = some entry)
    (hexpired : entry.ExpiredAt clock.steady) :
    (store.serve clock request).1.isMiss ∧
      (store.serve clock request).2.1.table.get? key = none ∧
      key ∈ store.takenOut clock request := by
  have hpast : ∀ n, entry.ExpiredAt (clock.reading n) := fun n => by
    rw [Clock.reading_of_queued_nil hqueued]
    exact hexpired
  have hafter := congrArg Prod.fst ((serve_of_isLookup hlookup hkey clock).1 store)
  have hgone : (store.serve clock request).2.1.table.get? key = none := by
    refine Option.eq_none_iff_forall_ne_some.2 fun found hstill => ?_
    rw [hafter, get?_lookup, hfound] at hstill
    obtain rfl := Option.some.inj hstill.1
    exact hstill.2 ⟨rfl, hpast 0, hpast 1⟩
  refine ⟨isMiss_serve hlookup hkey ?_, hgone, ?_⟩
  · rw [lookup_of_expired hfound (hpast 0)]
  · rw [mem_takenOut, hfound, hgone]
    exact ⟨hlookup, hkey, rfl, rfl⟩

end Lookup

section OneTime

variable (hqueued : clock.queued = []) (hkeyed : ∀ request ∈ requests, request.key?.isSome)
  (hlookups : OnlyLookedUp requests key)

include hqueued hkeyed hlookups

theorem serveAll_of_absent (habsent : store.table.get? key = none) :
    Missed key (requests.zip (store.serveAll clock requests).1) ∧
      (store.serveAll clock requests).2.1.table.get? key = none ∧
      key ∉ store.evicted clock requests := by
  induction requests generalizing store with
  | nil => exact ⟨fun _ hmem => absurd hmem List.not_mem_nil, habsent, List.not_mem_nil⟩
  | cons request rest ih =>
      obtain ⟨hrequest, hkeyed⟩ := List.forall_mem_cons.1 hkeyed
      obtain ⟨hlookup, hlookups⟩ := List.forall_mem_cons.1 hlookups
      have htaken : key ∉ store.takenOut clock request := not_mem_takenOut_of_none habsent
      have hstep : (request.key? = some key → (store.serve clock request).1.isMiss) ∧
          (store.serve clock request).2.1.table.get? key = none := by
        by_cases hkey : request.key? = some key
        · exact (serve_of_absent (hlookup hkey) hkey habsent).imp_left fun hmiss _ => hmiss
        · refine ⟨fun heq => absurd heq hkey, ?_⟩
          exact (get?_serve_of_key?_ne hrequest hkey store clock).trans habsent
      obtain ⟨hmissed, hlast, hevicted⟩ := ih hkeyed hlookups hstep.2
      simp only [serveAll, evicted, serve_clock hqueued, List.zip_cons_cons]
      refine ⟨List.forall_mem_cons.2 ⟨hstep.1, hmissed⟩, hlast, ?_⟩
      rw [List.mem_append]
      exact not_or_intro htaken hevicted

/-- The first lookup takes an expired entry out; no lookup finds it. -/
theorem serveAll_of_expired (hfound : store.table.get? key = some entry)
    (hexpired : entry.ExpiredAt clock.steady)
    (hsought : ∃ request ∈ requests, request.key? = some key) :
    Missed key (requests.zip (store.serveAll clock requests).1) ∧
      (store.serveAll clock requests).2.1.table.get? key = none ∧
      (store.evicted clock requests).count key = 1 := by
  induction requests generalizing store with
  | nil => exact absurd hsought.choose_spec.1 List.not_mem_nil
  | cons request rest ih =>
      obtain ⟨hrequest, hkeyed⟩ := List.forall_mem_cons.1 hkeyed
      obtain ⟨hlookup, hlookups⟩ := List.forall_mem_cons.1 hlookups
      simp only [serveAll, evicted, serve_clock hqueued, List.zip_cons_cons, List.count_append]
      by_cases hkey : request.key? = some key
      -- The first lookup of the key takes the entry out; the later ones find none.
      · obtain ⟨hmiss, hgone, htaken⟩ :=
          serve_of_expired (hlookup hkey) hkey hqueued hfound hexpired
        obtain ⟨hmissed, hlast, hevicted⟩ := serveAll_of_absent hqueued hkeyed hlookups hgone
        refine ⟨List.forall_mem_cons.2 ⟨fun _ => hmiss, hmissed⟩, hlast, ?_⟩
        rw [List.count_eq_one_of_mem (nodup_takenOut _ _ _) htaken, List.count_eq_zero.2 hevicted]
      · have hstill := (get?_serve_of_key?_ne hrequest hkey store clock).trans hfound
        have hsought : ∃ request ∈ rest, request.key? = some key := by
          obtain ⟨found, hmem, hfound⟩ := hsought
          rcases List.mem_cons.1 hmem with rfl | hmem
          · exact absurd hfound hkey
          · exact ⟨found, hmem, hfound⟩
        have htaken : key ∉ store.takenOut clock request := fun hmem =>
          hkey (mem_takenOut.1 hmem).2.1
        obtain ⟨hmissed, hlast, hevicted⟩ := ih hkeyed hlookups hstill hsought
        refine ⟨List.forall_mem_cons.2 ⟨fun heq => absurd heq hkey, hmissed⟩, hlast, ?_⟩
        rw [List.count_eq_zero.2 htaken, hevicted]

end OneTime

end Store

/-! ### Turns -/

section Turns

variable {callers : List (List (Request κ ν))} {order : List (Nat × Request κ ν)}
  {turns : List Nat} {caller : Nat} {key : κ}

def requestsOf (callers : List (List (Request κ ν))) (caller : Nat) : List (Request κ ν) :=
  callers[caller]?.getD []

def Shared (callers : List (List (Request κ ν))) (key : κ) : Prop :=
  ∃ caller other, caller ≠ other ∧ DealsWith (requestsOf callers caller) key ∧
    DealsWith (requestsOf callers other) key

/-- Callers that put, look up and delete, and only look shared keys up. -/
structure IndependentCallers (callers : List (List (Request κ ν))) : Prop where
  keyed : ∀ requests ∈ callers, ∀ request ∈ requests, request.key?.isSome
  shared : ∀ key, Shared callers key → ∀ requests ∈ callers, OnlyLookedUp requests key

/-- The steps are the requests of the callers, each caller's in its own order. -/
def Interleaves (order : List (Nat × Request κ ν)) (callers : List (List (Request κ ν))) : Prop :=
  ∀ caller, ofCaller caller order = requestsOf callers caller

/-- The steps of callers that take turns, each making all its requests at once. -/
def inTurns (callers : List (List (Request κ ν))) (turns : List Nat) :
    List (Nat × Request κ ν) :=
  turns.flatMap fun caller => (requestsOf callers caller).map fun request => (caller, request)

theorem inTurns_cons (callers : List (List (Request κ ν))) (turn : Nat) (rest : List Nat) :
    inTurns callers (turn :: rest) =
      (requestsOf callers turn).map (fun request => (turn, request)) ++ inTurns callers rest :=
  List.flatMap_cons

theorem caller_mem_turns {step : Nat × Request κ ν} (h : step ∈ inTurns callers turns) :
    step.1 ∈ turns := by
  obtain ⟨caller, hturn, hstep⟩ := List.mem_flatMap.1 h
  obtain ⟨request, -, rfl⟩ := List.mem_map.1 hstep
  exact hturn

theorem ofCaller_inTurns (hturns : turns.Nodup) (hcaller : caller ∈ turns) :
    ofCaller caller (inTurns callers turns) = requestsOf callers caller := by
  induction turns with
  | nil => exact absurd hcaller List.not_mem_nil
  | cons turn rest ih =>
      obtain ⟨hfresh, hrest⟩ := List.nodup_cons.1 hturns
      rw [inTurns_cons, ofCaller_append]
      by_cases hturn : turn = caller
      · subst hturn
        have hothers : ofCaller turn (inTurns callers rest) = [] := ofCaller_eq_nil
          fun step hstep heq => hfresh (heq ▸ caller_mem_turns hstep)
        rw [ofCaller_map_self, hothers, List.append_nil]
      · have hlater := (List.mem_cons.1 hcaller).resolve_left (Ne.symm hturn)
        rw [ofCaller_map_of_ne hturn, List.nil_append, ih hrest hlater]

theorem interleaves_inTurns (hturns : turns.Perm (List.range callers.length)) :
    Interleaves (inTurns callers turns) callers := by
  intro caller
  by_cases hcaller : caller < callers.length
  · have hnodup : turns.Nodup := hturns.nodup_iff.2 List.nodup_range
    exact ofCaller_inTurns hnodup (hturns.mem_iff.2 (List.mem_range.2 hcaller))
  · have hnone : requestsOf callers caller = [] := by
      rw [requestsOf, List.getElem?_eq_none (Nat.not_lt.1 hcaller), Option.getD_none]
    rw [hnone]
    refine ofCaller_eq_nil fun step hstep heq => hcaller (heq ▸ ?_)
    exact List.mem_range.1 (hturns.mem_iff.1 (caller_mem_turns hstep))

namespace Interleaves

variable (horder : Interleaves order callers)

include horder

theorem mem_iff {step : Nat × Request κ ν} :
    step ∈ order ↔ step.2 ∈ requestsOf callers step.1 := by
  rw [← horder, mem_ofCaller_iff]

theorem exists_of_mem {step : Nat × Request κ ν} (h : step ∈ order) :
    ∃ requests ∈ callers, step.2 ∈ requests := by
  have hmem := horder.mem_iff.1 h
  cases hcaller : callers[step.1]? with
  | none =>
      rw [requestsOf, hcaller] at hmem
      exact absurd hmem List.not_mem_nil
  | some requests =>
      rw [requestsOf, hcaller] at hmem
      exact ⟨requests, List.mem_of_getElem? hcaller, hmem⟩

variable (hcallers : IndependentCallers callers)

include hcallers

theorem keyed : ∀ step ∈ order, step.2.key?.isSome := by
  intro step hstep
  obtain ⟨requests, hrequests, hmem⟩ := horder.exists_of_mem hstep
  exact hcallers.keyed requests hrequests step.2 hmem

theorem onlyLookedUp (hshared : Shared callers key) :
    OnlyLookedUp (order.map Prod.snd) key := by
  intro request hrequest hkey
  obtain ⟨step, hstep, rfl⟩ := List.mem_map.1 hrequest
  obtain ⟨requests, hrequests, hmem⟩ := horder.exists_of_mem hstep
  exact hcallers.shared key hshared requests hrequests step.2 hmem hkey

theorem independent {step other : Nat × Request κ ν} (hstep : step ∈ order)
    (hother : other ∈ order) (hne : step.1 ≠ other.1) : step.2.Independent other.2 where
  isSome_left := horder.keyed hcallers step hstep
  isSome_right := horder.keyed hcallers other hother
  lookups hkeys := by
    obtain ⟨key, hkey⟩ := Option.isSome_iff_exists.1 (horder.keyed hcallers step hstep)
    have hkey' : other.2.key? = some key := hkeys.symm.trans hkey
    have hshared : Shared callers key := ⟨step.1, other.1, hne,
      ⟨step.2, horder.mem_iff.1 hstep, hkey⟩, ⟨other.2, horder.mem_iff.1 hother, hkey'⟩⟩
    have hlookups := horder.onlyLookedUp hcallers hshared
    exact ⟨hlookups step.2 (List.mem_map_of_mem hstep) hkey,
      hlookups other.2 (List.mem_map_of_mem hother) hkey'⟩

end Interleaves

end Turns

section Serving

variable {callers : List (List (Request String ν))} {order : List (Nat × Request String ν)}
  {turns : List Nat}

/-- Callers that are served in turn are told what they are told in the order of their turns. -/
theorem Cache.serveEach_inTurns {clock : Clock} (hqueued : clock.queued = [])
    (hturns : turns.Nodup) (callers : List (List (Request String ν))) (store : Store String ν) :
    let served := Cache.serveEach store clock (turns.map (requestsOf callers))
    served.1 = turns.map (fun caller =>
        ofCaller caller (store.answers clock (inTurns callers turns))) ∧
      served.2.1 = store.afterSteps clock (inTurns callers turns) := by
  intro served
  simp only [served]
  induction turns generalizing store with
  | nil => exact ⟨rfl, rfl⟩
  | cons turn rest ih =>
      obtain ⟨hfresh, hrest⟩ := List.nodup_cons.1 hturns
      let between := (store.serveAll clock (requestsOf callers turn)).2.1
      obtain ⟨hothers, hlast⟩ := ih hrest between
      have hlater : ofCaller turn (between.answers clock (inTurns callers rest)) = [] := by
        refine ofCaller_eq_nil fun answer hanswer heq => hfresh (heq ▸ ?_)
        obtain ⟨step, hstep, hcaller⟩ := List.mem_map.1 (Store.mem_callers_of_mem_answers hanswer)
        exact hcaller ▸ caller_mem_turns hstep
      have hrows : (rest.map fun caller =>
            ofCaller caller (store.answers clock (inTurns callers (turn :: rest)))) =
          rest.map fun caller =>
            ofCaller caller (between.answers clock (inTurns callers rest)) := by
        refine List.map_congr_left fun caller hcaller => ?_
        have hne : turn ≠ caller := fun heq => hfresh (heq ▸ hcaller)
        rw [inTurns_cons, Store.answers_append hqueued, Store.answers_map hqueued,
          Store.afterSteps_map, ofCaller_append, ofCaller_map_of_ne hne, List.nil_append]
      simp only [List.map_cons, Cache.serveEach, Store.serveAll_clock hqueued, hrows]
      rw [inTurns_cons, Store.answers_append hqueued, Store.answers_map hqueued,
        Store.afterSteps_append hqueued, Store.afterSteps_map, ofCaller_append, ofCaller_map_self,
        hlater, List.append_nil]
      exact ⟨congrArg _ hothers, hlast⟩

/-- **Independent callers do not notice the order in which they are served.** At one time any
interleaving of their requests tells each caller what serving them in turn tells it, whichever turns
they take, and leaves the same entries and statistics. Every lookup of a shared key with an expired
entry misses, and the entry is taken out and counted once. -/
theorem interleaving_as_in_turns (hcallers : IndependentCallers callers)
    (horder : Interleaves order callers) (hturns : turns.Perm (List.range callers.length))
    (store : Store String ν) (now : Instant) :
    let clock : Clock := { steady := now }
    let requests := order.map Prod.snd
    let mixed := store.serveAll clock requests
    let inTurn := Cache.serveEach store clock (turns.map (requestsOf callers))
    inTurn.1 = turns.map (fun caller => ofCaller caller ((order.map Prod.fst).zip mixed.1)) ∧
      (∀ key, mixed.2.1.table.get? key = inTurn.2.1.table.get? key) ∧
      mixed.2.1.stats = inTurn.2.1.stats ∧
      mixed.2.1.counters.lazyEvictions =
        store.counters.lazyEvictions + (store.evicted clock requests).length ∧
      ∀ key entry, Shared callers key → store.table.get? key = some entry →
        entry.ExpiredAt now →
        Missed key (requests.zip mixed.1) ∧ mixed.2.1.table.get? key = none ∧
          (store.evicted clock requests).count key = 1 := by
  intro clock requests mixed inTurn
  have hqueued : clock.queued = [] := rfl
  have hkeyed := horder.keyed hcallers
  have hsame : ∀ caller, ofCaller caller order = ofCaller caller (inTurns callers turns) :=
    fun caller => (horder caller).trans (interleaves_inTurns hturns caller).symm
  have hagree : store.Agree clock order (inTurns callers turns) :=
    Store.agree_of_ofCaller_eq hqueued hsame hkeyed fun step hstep other hother hne =>
      horder.independent hcallers hstep hother hne
  have hnodup : turns.Nodup := hturns.nodup_iff.2 List.nodup_range
  obtain ⟨hrows, hlast⟩ := Cache.serveEach_inTurns hqueued hnodup callers store
  have hrequests : ∀ request ∈ requests, request.key?.isSome := by
    intro request hmem
    obtain ⟨step, hstep, rfl⟩ := List.mem_map.1 hmem
    exact hkeyed step hstep
  refine ⟨?_, ?_, ?_, store.lazyEvictions_serveAll clock requests, ?_⟩
  · rw [hrows]
    exact List.map_congr_left fun caller _ => (hagree.answers_eq caller).symm
  · rw [hlast]
    exact hagree.alike.get?_eq
  · rw [hlast]
    exact hagree.alike.stats_eq
  · intro key entry hshared hfound hexpired
    have hlookups := horder.onlyLookedUp hcallers hshared
    obtain ⟨caller, -, -, ⟨request, hrequest, hkey⟩, -⟩ := hshared
    have hmem : request ∈ requests :=
      List.mem_map.2 ⟨(caller, request), horder.mem_iff.2 hrequest, rfl⟩
    exact Store.serveAll_of_expired hqueued hrequests hlookups hfound hexpired ⟨request, hmem, hkey⟩

/-- Two callers look an expired entry up; one of them writes another key meanwhile. -/
theorem interleaving_as_in_turns_of_shared_expired_key :
    let entry : Entry Payload := { payload := .text "x", expiresAt := { seconds := 1 } }
    let store : Store String Payload := ({} : Store String Payload).insert "a" entry
    let now : Instant := { seconds := 2 }
    let writer : List (Request String Payload) := [.put "b" (.text "y") (.ofSeconds 1), .get "a"]
    let reader : List (Request String Payload) := [.getWithExpiry "a"]
    let order : List (Nat × Request String Payload) :=
      [(0, .put "b" (.text "y") (.ofSeconds 1)), (1, .getWithExpiry "a"), (0, .get "a")]
    IndependentCallers [writer, reader] ∧ Interleaves order [writer, reader] ∧
      Shared [writer, reader] "a" ∧ entry.ExpiredAt now ∧
      (store.serveAll { steady := now } (order.map Prod.snd)).2.1.stats =
        (Cache.serveEach store { steady := now }
          ([1, 0].map (requestsOf [writer, reader]))).2.1.stats ∧
      (store.evicted { steady := now } (order.map Prod.snd)).count "a" = 1 := by
  intro entry store now writer reader order
  have hwrites : ∀ caller, DealsWith (requestsOf [writer, reader] caller) "b" → caller = 0 := by
    rintro (_ | _ | caller) ⟨request, hmem, hkey⟩
    · rfl
    · obtain rfl := List.mem_singleton.1 hmem
      exact absurd hkey (by decide)
    · exact absurd hmem List.not_mem_nil
  have hcallers : IndependentCallers [writer, reader] := by
    refine ⟨by decide, ?_⟩
    rintro key ⟨caller, other, hne, hcaller, hother⟩ requests hrequests request hmem hkey
    rcases List.mem_cons.1 hrequests with rfl | hrequests
    · rcases List.mem_cons.1 hmem with rfl | hmem
      · obtain rfl := Option.some.inj hkey
        exact absurd ((hwrites _ hcaller).trans (hwrites _ hother).symm) hne
      · obtain rfl := List.mem_singleton.1 hmem
        trivial
    · obtain rfl := List.mem_singleton.1 hrequests
      obtain rfl := List.mem_singleton.1 hmem
      trivial
  have horder : Interleaves order [writer, reader] := by
    rintro (_ | _ | caller)
    · rfl
    · rfl
    · exact ofCaller_eq_nil (by simp [order])
  have hshared : Shared [writer, reader] "a" := by
    refine ⟨0, 1, by decide, ⟨.get "a", ?_, rfl⟩, ⟨.getWithExpiry "a", ?_, rfl⟩⟩
    · exact List.mem_cons_of_mem _ List.mem_cons_self
    · exact List.mem_cons_self
  have hexpired : entry.ExpiredAt now := by decide
  have hturns : [1, 0].Perm (List.range [writer, reader].length) := by decide
  obtain ⟨-, -, hstats, -, hexpiry⟩ :=
    interleaving_as_in_turns hcallers horder hturns store now
  have hfound : store.table.get? "a" = some entry := Table.get?_insert_self ∅ "a" entry
  obtain ⟨-, -, hcount⟩ := hexpiry "a" entry hshared hfound hexpired
  exact ⟨hcallers, horder, hshared, hexpired, hstats, hcount⟩

end Serving

end ExpiringCache
