import ExpiringCache.Proofs.Store.Counts
import ExpiringCache.Proofs.Store.Expiry
/-!
# What lookups see of a store

`Store.view` is what is left of a store when its expired entries are left out, and what sweeps and
evictions count. As long as time does not go back, a lookup is answered from the view, a purge does
not change it, and every call changes it in a way that depends on the view alone.

`Store.replay` makes calls on a store one after the other and nothing else. A run of actions at one
time shows what the replay of its calls shows.
-/

namespace ExpiringCache

variable {ν : Type}

structure View (ν : Type) where
  hits : Nat
  misses : Nat
  /-- The entry under a key, unless it is expired. -/
  live : String → Option (Entry ν)

namespace Store

variable {s t : Store String ν} {now later : Instant} {clock : Clock} {key : String}
  {entry : Entry ν}

def view (store : Store String ν) (now : Instant) : View ν where
  hits := store.counters.hits
  misses := store.counters.misses
  live key := (store.table.get? key).filter fun entry => ¬entry.ExpiredAt now

/-! ### Views -/

theorem live_eq_some_iff :
    (s.view now).live key = some entry ↔
      s.table.get? key = some entry ∧ ¬entry.ExpiredAt now := by
  simp only [view, Option.filter_eq_some_iff, decide_eq_true_eq]

theorem not_expiredAt_of_live (h : (s.view now).live key = some entry) : ¬entry.ExpiredAt now :=
  (live_eq_some_iff.1 h).2

theorem view_eq (hhits : s.counters.hits = t.counters.hits)
    (hmisses : s.counters.misses = t.counters.misses)
    (hlive : ∀ key entry, (s.view now).live key = some entry ↔ (t.view now).live key = some entry) :
    s.view now = t.view now := by
  have heq : (s.view now).live = (t.view now).live := by
    funext key
    exact Option.ext (hlive key)
  calc s.view now
      = ⟨s.counters.hits, s.counters.misses, (s.view now).live⟩ := rfl
    _ = ⟨t.counters.hits, t.counters.misses, (t.view now).live⟩ := by rw [hhits, hmisses, heq]

theorem live_later_iff (hle : now ≤ later) :
    (s.view later).live key = some entry ↔
      (s.view now).live key = some entry ∧ ¬entry.ExpiredAt later := by
  have hearlier : ¬entry.ExpiredAt later → ¬entry.ExpiredAt now := by
    intro hlive
    rw [Entry.not_expiredAt] at hlive ⊢
    exact Int.le_trans hle hlive
  rw [live_eq_some_iff, live_eq_some_iff, and_assoc]
  exact and_congr_right fun _ => ⟨fun hlive => ⟨hearlier hlive, hlive⟩, And.right⟩

/-- What looks alike now looks alike for ever. -/
theorem view_mono (h : s.view now = t.view now) (hle : now ≤ later) :
    s.view later = t.view later := by
  refine view_eq (congrArg View.hits h) (congrArg View.misses h) fun key entry => ?_
  rw [live_later_iff hle, live_later_iff hle, h]

/-! ### Purges -/

/-- A purge leaves what was live. -/
theorem get?_purge_eq_live (hqueued : clock.queued = []) (store : Store String ν) (key : String) :
    (store.purge clock).2.1.table.get? key = (store.view clock.steady).live key := by
  refine Option.ext fun entry => ?_
  rw [get?_purge, live_eq_some_iff]
  refine and_congr_right fun hfound => not_congr ?_
  simp only [Clock.reading_of_queued_nil hqueued, exists_and_right]
  refine and_iff_right ?_
  exact List.mem_iff_getElem?.1 (Table.get?_eq_some_iff.1 hfound)

theorem view_purge (hqueued : clock.queued = []) (store : Store String ν) :
    (store.purge clock).2.1.view clock.steady = store.view clock.steady := by
  refine view_eq rfl rfl fun key entry => ?_
  rw [live_eq_some_iff, get?_purge_eq_live hqueued]
  exact and_iff_left_of_imp not_expiredAt_of_live

/-! ### Lookups -/

theorem fst_lookup (store : Store String ν) (key : String) (clock : Clock) :
    (store.lookup key clock).1 = (store.view (clock.reading 0)).live key := by
  refine Option.ext fun entry => ?_
  rw [lookup_fst_eq_some_iff, live_eq_some_iff, Entry.not_expiredAt]

end Store

/-! ### Calls -/

/-- The action is a caller's and does more than sweep or count entries. -/
def Action.isCall : Action ν → Bool
  | .serve .purge | .serve .size | .serve .hitRate => false
  | _ => true

def Action.isDelete : Action ν → Bool
  | .serve (.delete _) => true
  | _ => false

/-- What a caller sees of a call, and of the store after it. -/
structure Sighting (ν : Type) where
  /-- The reply, unless the call was a delete. -/
  reply? : Option (Reply ν)
  after : View ν

variable [SnapshotText ν]

def Moment.sighting (moment : Moment ν) : Sighting ν where
  reply? :=
    if moment.action.isDelete then none
    else some (moment.store.act moment.clock moment.action).1
  after := moment.after.view moment.clock.steady

namespace Store

variable {s t : Store String ν} {clock : Clock} {action : Action ν} {key : String}
  {entry : Entry ν}

theorem live_act (store : Store String ν) (clock : Clock) (action : Action ν) (key : String)
    (entry : Entry ν) :
    let moment : Moment ν := { store, clock, action }
    (moment.after.view clock.steady).live key = some entry ↔
      (moment.Writes key entry ∧ ¬entry.ExpiredAt clock.steady) ∨
        ((store.view clock.steady).live key = some entry ∧ moment.Spares key entry) := by
  intro moment
  rw [live_eq_some_iff, live_eq_some_iff, Moment.get?_after, or_and_right, and_right_comm]

/-- A call removes entries by their key alone. -/
theorem spares_congr (hcall : action.isCall) :
    (⟨s, clock, action⟩ : Moment ν).Spares key entry ↔
      (⟨t, clock, action⟩ : Moment ν).Spares key entry := by
  cases action with
  | reload path policy content => exact Iff.rfl
  | serve request =>
      cases request with
      | purge => exact absurd hcall Bool.false_ne_true
      | _ => exact Iff.rfl

section Call

variable (h : s.view clock.steady = t.view clock.steady) (hqueued : clock.queued = [])
  (hcall : action.isCall)

include h hqueued hcall

theorem reply_congr (hdelete : action.isDelete = false) :
    (s.act clock action).1 = (t.act clock action).1 := by
  have hlookup : ∀ key, (s.lookup key clock).1 = (t.lookup key clock).1 := by
    intro key
    rw [fst_lookup, fst_lookup, Clock.reading_of_queued_nil hqueued, h]
  cases action with
  | reload path policy content =>
      cases content with
      | error error => rfl
      | ok bytes => cases hdecode : Snapshot.decode bytes <;> simp only [act, reload, hdecode]
  | serve request =>
      cases request with
      | put key payload ttl => rfl
      | get key => simp only [act, serve, hlookup key]
      | getWithExpiry key => simp only [act, serve, hlookup key]
      | delete key => exact absurd hdelete Bool.false_ne_true.symm
      | purge => exact absurd hcall Bool.false_ne_true
      | size => exact absurd hcall Bool.false_ne_true
      | hitRate => exact absurd hcall Bool.false_ne_true

theorem countP_responses_congr {p : Response ν → Bool}
    (hp : ∀ present, p (.deleted present) = false) :
    (⟨s, clock, action⟩ : Moment ν).responses.countP p =
      (⟨t, clock, action⟩ : Moment ν).responses.countP p := by
  cases hdelete : action.isDelete with
  | false =>
      have hreply := reply_congr h hqueued hcall hdelete
      exact congrArg (fun reply => reply.toResponses.countP p) hreply
  | true =>
      have hnone : ∀ store : Store String ν,
          (⟨store, clock, action⟩ : Moment ν).responses.countP p = 0 := by
        intro store
        cases action with
        | reload path policy content => exact absurd hdelete Bool.false_ne_true
        | serve request =>
            cases request with
            | delete key =>
                refine List.countP_eq_zero.2 fun response hmem => ?_
                obtain rfl := List.mem_singleton.1 hmem
                simp only [hp, Bool.false_eq_true, not_false_eq_true]
            | _ => exact absurd hdelete Bool.false_ne_true
      rw [hnone, hnone]

theorem view_act_congr :
    (s.act clock action).2.1.view clock.steady = (t.act clock action).2.1.view clock.steady := by
  have hs := s.balanced_act clock action
  have ht := t.balanced_act clock action
  have hhits : s.counters.hits = t.counters.hits := congrArg View.hits h
  have hmisses : s.counters.misses = t.counters.misses := congrArg View.misses h
  refine view_eq (hs.hits.trans ?_) (hs.misses.trans ?_) fun key entry => ?_
  · rw [hhits, countP_responses_congr h hqueued hcall fun _ => rfl]
    exact ht.hits.symm
  · rw [hmisses, countP_responses_congr h hqueued hcall fun _ => rfl]
    exact ht.misses.symm
  · refine (live_act s clock action key entry).trans ?_
    rw [h, spares_congr hcall]
    exact (live_act t clock action key entry).symm

theorem sighting_congr :
    (⟨s, clock, action⟩ : Moment ν).sighting = (⟨t, clock, action⟩ : Moment ν).sighting := by
  have hview := view_act_congr h hqueued hcall
  cases hdelete : action.isDelete with
  | false =>
      have hreply := reply_congr h hqueued hcall hdelete
      simp only [Moment.sighting, Moment.after, hdelete, hview, hreply]
  | true => simp only [Moment.sighting, Moment.after, hdelete, hview, if_true]

end Call

/-- What is no call cannot be seen. -/
theorem view_act_of_not_isCall (hqueued : clock.queued = []) (hcall : action.isCall = false)
    (store : Store String ν) :
    (store.act clock action).2.1.view clock.steady = store.view clock.steady := by
  cases action with
  | reload path policy content => exact absurd hcall Bool.false_ne_true.symm
  | serve request =>
      cases request with
      | purge => exact view_purge hqueued store
      | size => rfl
      | hitRate => rfl
      | _ => exact absurd hcall Bool.false_ne_true.symm

/-! ### Replays -/

/-- What callers see of the calls of a run. -/
def sightings (store : Store String ν) (clock : Clock) (actions : List (Action ν)) :
    List (Sighting ν) :=
  ((store.history clock actions).filter fun moment => moment.action.isCall).map Moment.sighting

/-- Makes calls one after the other, each at its own time. -/
def replay (store : Store String ν) : List (Clock × Action ν) → List (Sighting ν) × Store String ν
  | [] => ([], store)
  | (clock, action) :: rest =>
    let moment : Moment ν := { store, clock, action }
    let (sightings, last) := moment.after.replay rest
    (moment.sighting :: sightings, last)

theorem replay_append (store : Store String ν) (first second : List (Clock × Action ν)) :
    store.replay (first ++ second) =
      ((store.replay first).1 ++ ((store.replay first).2.replay second).1,
        ((store.replay first).2.replay second).2) := by
  induction first generalizing store with
  | nil => rfl
  | cons call rest ih =>
      obtain ⟨clock, action⟩ := call
      simp only [List.cons_append, replay, ih]

/-- A run at one time shows what its calls alone show. -/
theorem replay_calls (hqueued : clock.queued = []) (h : s.view clock.steady = t.view clock.steady)
    (actions : List (Action ν)) :
    let calls := (actions.filter Action.isCall).map fun action => (clock, action)
    s.sightings clock actions = (t.replay calls).1 ∧
      (s.run clock actions).1.view clock.steady = (t.replay calls).2.view clock.steady := by
  induction actions generalizing s t with
  | nil => exact ⟨rfl, h⟩
  | cons action rest ih =>
      have hclock : (s.act clock action).2.2 = clock := s.act_clock hqueued action
      cases hcall : action.isCall with
      | false =>
          have hidle := view_act_of_not_isCall hqueued hcall s
          obtain ⟨hseen, hlast⟩ := ih (hidle.trans h)
          simp only [sightings, history, run, hclock, List.filter_cons, hcall]
          exact ⟨hseen, hlast⟩
      | true =>
          have hsighting := sighting_congr h hqueued hcall
          obtain ⟨hseen, hlast⟩ := ih (view_act_congr h hqueued hcall)
          simp only [sightings, history, run, hclock, List.filter_cons, hcall]
          exact ⟨congrArg₂ List.cons hsighting hseen, hlast⟩

end Store

end ExpiringCache
