import ExpiringCache.Proofs.Cache.Stations
import ExpiringCache.Proofs.Store.Expiry
import ExpiringCache.Session
/-!
# Waking the janitors of a session

The janitors of a session do not disturb one another: each wakes as if it were alone, at the same
uptime, only its turn and how long it lingers depend on the others. Without queued readings the
clock is the same for all of them too.
-/

namespace ExpiringCache

namespace Cache

variable {ν : Type} {cache : Cache ν} {clock : Clock} {station : Station}

theorem wake_clock (hqueued : clock.queued = []) (cache : Cache ν) (station : Station)
    (now turn lingers : Nat) : (cache.wake station now turn lingers clock).2.1 = clock := by
  cases hjanitor : cache.janitorAt? station with
  | none => rw [wake_of_none hjanitor]
  | some janitor =>
      simp only [wake, hjanitor]
      exact sweep_clock hqueued _ _

/-- The cache has this janitor and no other. -/
def Sole (cache : Cache ν) (janitor : Janitor) : Prop :=
  cache.janitor? = some janitor ∧ cache.former = []

theorem Sole.wake {janitor : Janitor} (h : cache.Sole janitor) (now turn lingers : Nat)
    (clock : Clock) :
    (cache.wake .resident now turn lingers clock).1.Sole (janitor.wake now turn lingers).2 := by
  obtain ⟨hjanitor, hformer⟩ := h
  have hresident : cache.janitorAt? .resident = some janitor := hjanitor
  rw [wake_of_janitor hresident]
  exact ⟨rfl, hformer⟩

theorem Sole.janitorAt?_of_ne {janitor : Janitor} (h : cache.Sole janitor)
    (hne : station ≠ .resident) : cache.janitorAt? station = none := by
  cases station with
  | resident => exact absurd rfl hne
  | former index => rw [janitorAt?, h.2, List.getElem?_nil]

end Cache

namespace Session

variable {session : Session} {place : Nat} {post other : Post} {cache : Cache Payload}
  {janitor : Janitor}

def janitorAt? (session : Session) (post : Post) : Option Janitor :=
  (session.kept? post.place).bind (·.janitorAt? post.station)

theorem janitorAt?_eq_some_iff : session.janitorAt? post = some janitor ↔
    ∃ cache, session.kept? post.place = some cache ∧
      cache.janitorAt? post.station = some janitor :=
  Option.bind_eq_some_iff

theorem janitorAt?_of_kept? (h : session.kept? post.place = some cache) :
    session.janitorAt? post = cache.janitorAt? post.station := by
  rw [janitorAt?, h, Option.bind_some]

theorem cache?_eq_some_iff : session.cache? place = some cache ↔
    session.kept? place = some cache ∧ cache.discarded = false := by
  rw [cache?, Option.filter_eq_some_iff]
  simp

theorem kept?_of_cache? (h : session.cache? place = some cache) :
    session.kept? place = some cache :=
  (cache?_eq_some_iff.1 h).1

theorem janitorAt?_of_cache? (h : session.cache? place = some cache) (station : Station) :
    session.janitorAt? ⟨place, station⟩ = cache.janitorAt? station := by
  rw [janitorAt?, kept?_of_cache? h, Option.bind_some]

theorem lt_length_caches (h : session.kept? place = some cache) :
    place < session.caches.length := by
  by_contra hlt
  rw [kept?, List.getElem?_eq_none (Nat.le_of_not_lt hlt)] at h
  exact Option.some_ne_none cache h.symm

/-! ### One place -/

section Set

variable {after : Session} {later : Cache Payload}

theorem kept?_set_self (h : session.kept? place = some cache)
    (hset : after.caches = session.caches.set place (some later)) :
    after.kept? place = some later := by
  rw [kept?, hset, List.getElem?_set_self (lt_length_caches h), Option.join_some]

theorem kept?_set_of_ne {set : Nat} (hne : set ≠ place)
    (hset : after.caches = session.caches.set set (some later)) :
    after.kept? place = session.kept? place := by
  rw [kept?, hset, List.getElem?_set_ne hne, kept?]

end Set

/-! ### New places -/

theorem kept?_of_caches_eq {later : Session} (h : later.caches = session.caches) (place : Nat) :
    later.kept? place = session.kept? place := by
  rw [kept?, h, kept?]

theorem cache?_of_caches_eq {later : Session} (h : later.caches = session.caches) (place : Nat) :
    later.cache? place = session.cache? place := by
  rw [cache?, kept?_of_caches_eq h, cache?]

theorem kept?_append_of_ne (hne : place ≠ session.caches.length)
    (cache? : Option (Cache Payload)) (turn : Nat) :
    { session with turn, caches := session.caches ++ [cache?] }.kept? place =
      session.kept? place := by
  rw [kept?, kept?]
  rcases Nat.lt_or_gt_of_ne hne with hlt | hgt
  · rw [List.getElem?_append_left hlt]
  · have hlength : (session.caches ++ [cache?]).length ≤ place := by
      rw [List.length_append, List.length_singleton]
      exact hgt
    rw [List.getElem?_eq_none hlength, List.getElem?_eq_none hgt.le]

theorem kept?_append_self (session : Session) (cache? : Option (Cache Payload)) (turn : Nat) :
    { session with turn, caches := session.caches ++ [cache?] }.kept? session.caches.length =
      cache? := by
  rw [kept?, List.getElem?_concat_length, Option.join_some]

theorem kept?_length_caches (session : Session) : session.kept? session.caches.length = none := by
  rw [kept?, List.getElem?_eq_none le_rfl]
  rfl

theorem cache?_append_of_lt (h : place < session.caches.length)
    (cache? : Option (Cache Payload)) (turn : Nat) :
    { session with turn, caches := session.caches ++ [cache?] }.cache? place =
      session.cache? place := by
  rw [Session.cache?, kept?_append_of_ne h.ne, Session.cache?]

theorem forall_kept?_append {property : Cache Payload → Prop} {cache? : Option (Cache Payload)}
    (h : ∀ place cache, session.kept? place = some cache → property cache)
    (hcache : ∀ cache, cache? = some cache → property cache) (turn place : Nat)
    (cache : Cache Payload)
    (hkept : { session with turn, caches := session.caches ++ [cache?] }.kept? place =
      some cache) : property cache := by
  by_cases hplace : place = session.caches.length
  · subst hplace
    rw [kept?_append_self] at hkept
    exact hcache cache hkept
  · rw [kept?_append_of_ne hplace] at hkept
    exact h place cache hkept

/-! ### One janitor -/

theorem wakeAt_of_none (h : session.kept? post.place = none) :
    session.wakeAt post = (session, []) := by
  rw [wakeAt, h]

theorem wakeAt_of_kept? (h : session.kept? post.place = some cache) :
    let woken := cache.wake post.station session.uptime session.turn
      (session.lingers session.turn) session.clock
    session.wakeAt post =
      ({ session with
          clock := woken.2.1
          turn := session.turn + 1
          caches := session.caches.set post.place (some woken.1) },
        woken.2.2) := by
  rw [wakeAt, h]

theorem uptime_wakeAt (session : Session) (post : Post) :
    (session.wakeAt post).1.uptime = session.uptime := by
  unfold wakeAt
  split <;> rfl

theorem clock_wakeAt (hqueued : session.clock.queued = []) (post : Post) :
    (session.wakeAt post).1.clock = session.clock := by
  unfold wakeAt
  split
  · rfl
  · exact Cache.wake_clock hqueued _ _ _ _ _

theorem kept?_wakeAt_self (h : session.kept? post.place = some cache) :
    (session.wakeAt post).1.kept? post.place =
      some (cache.wake post.station session.uptime session.turn
        (session.lingers session.turn) session.clock).1 := by
  rw [wakeAt_of_kept? h]
  exact kept?_set_self h rfl

theorem kept?_wakeAt_of_ne (hne : post.place ≠ place) :
    (session.wakeAt post).1.kept? place = session.kept? place := by
  cases hkept : session.kept? post.place with
  | none => rw [wakeAt_of_none hkept]
  | some cache =>
      rw [wakeAt_of_kept? hkept]
      exact kept?_set_of_ne hne rfl

theorem cache?_wakeAt_self (h : session.cache? post.place = some cache) :
    (session.wakeAt post).1.cache? post.place =
      some (cache.wake post.station session.uptime session.turn
        (session.lingers session.turn) session.clock).1 := by
  obtain ⟨hkept, hthere⟩ := cache?_eq_some_iff.1 h
  refine cache?_eq_some_iff.2 ⟨kept?_wakeAt_self hkept, ?_⟩
  rw [Cache.discarded_wake, hthere]

theorem cache?_wakeAt_of_none (h : session.cache? post.place = none) :
    (session.wakeAt post).1.cache? post.place = none := by
  cases hkept : session.kept? post.place with
  | none => rwa [wakeAt_of_none hkept]
  | some cache =>
      have hgone : cache.discarded ≠ false := fun hthere =>
        Option.some_ne_none cache ((cache?_eq_some_iff.2 ⟨hkept, hthere⟩).symm.trans h)
      refine Option.eq_none_iff_forall_ne_some.2 fun later hlater => hgone ?_
      obtain ⟨hwoken, hthere⟩ := cache?_eq_some_iff.1 hlater
      obtain rfl := Option.some.inj ((kept?_wakeAt_self hkept).symm.trans hwoken)
      rwa [Cache.discarded_wake] at hthere

theorem cache?_wakeAt_of_ne (hne : post.place ≠ place) :
    (session.wakeAt post).1.cache? place = session.cache? place := by
  rw [cache?, kept?_wakeAt_of_ne hne, cache?]

theorem janitorAt?_wakeAt_self (h : session.janitorAt? post = some janitor) :
    (session.wakeAt post).1.janitorAt? post =
      some (janitor.wake session.uptime session.turn (session.lingers session.turn)).2 := by
  obtain ⟨cache, hkept, hjanitor⟩ := janitorAt?_eq_some_iff.1 h
  rw [janitorAt?_of_kept? (kept?_wakeAt_self hkept), Cache.janitorAt?_wake_self hjanitor]

theorem janitorAt?_wakeAt_of_ne (hne : other ≠ post) :
    (session.wakeAt other).1.janitorAt? post = session.janitorAt? post := by
  by_cases hplace : other.place = post.place
  · cases hkept : session.kept? other.place with
    | none => rw [wakeAt_of_none hkept]
    | some cache =>
        have hstation : other.station ≠ post.station := by
          intro hstation
          cases other
          cases post
          exact hne (congrArg₂ Post.mk hplace hstation)
        have hwoken := kept?_wakeAt_self hkept
        rw [hplace] at hkept hwoken
        rw [janitorAt?_of_kept? hwoken, Cache.janitorAt?_wake_of_ne hstation,
          janitorAt?_of_kept? hkept]
  · rw [janitorAt?, kept?_wakeAt_of_ne hplace, janitorAt?]

theorem janitorAt?_wakeAt_of_none (h : session.janitorAt? post = none) (other : Post) :
    (session.wakeAt other).1.janitorAt? post = none := by
  by_cases hother : other = post
  · subst hother
    cases hkept : session.kept? other.place with
    | none => rwa [wakeAt_of_none hkept]
    | some cache =>
        have hjanitor : cache.janitorAt? other.station = none := by
          rwa [janitorAt?_of_kept? hkept] at h
        rw [janitorAt?_of_kept? (kept?_wakeAt_self hkept), Cache.wake_of_none hjanitor, hjanitor]
  · rw [janitorAt?_wakeAt_of_ne hother, h]

/-! ### Several janitors -/

theorem uptime_wakeEach (session : Session) (order : List Post) :
    (session.wakeEach order).1.uptime = session.uptime := by
  induction order generalizing session with
  | nil => rfl
  | cons head rest ih => exact (ih _).trans (uptime_wakeAt session head)

theorem clock_wakeEach (hqueued : session.clock.queued = []) (order : List Post) :
    (session.wakeEach order).1.clock = session.clock := by
  induction order generalizing session with
  | nil => rfl
  | cons head rest ih =>
      have hclock := clock_wakeAt hqueued head
      have hqueued' : (session.wakeAt head).1.clock.queued = [] := by rw [hclock, hqueued]
      exact (ih hqueued').trans hclock

theorem janitorAt?_wakeEach_of_none (h : session.janitorAt? post = none) (order : List Post) :
    (session.wakeEach order).1.janitorAt? post = none := by
  induction order generalizing session with
  | nil => exact h
  | cons head rest ih => exact ih (janitorAt?_wakeAt_of_none h head)

/-- A janitor that has its turn, or has nothing to do, wakes as if it were alone. -/
theorem janitorAt?_wakeEach (h : session.janitorAt? post = some janitor) {order : List Post}
    (hturn : post ∈ order ∨ ¬janitor.DueAt session.uptime) :
    ∃ turn lingers, (session.wakeEach order).1.janitorAt? post =
      some (janitor.wake session.uptime turn lingers).2 := by
  induction order generalizing session janitor with
  | nil =>
      have hrests := hturn.resolve_left List.not_mem_nil
      refine ⟨session.turn, 0, ?_⟩
      rw [Janitor.wake_of_not_dueAt hrests]
      exact h
  | cons head rest ih =>
      have huptime := uptime_wakeAt session head
      by_cases hhead : head = post
      · -- Its turn has come; the turns that the rest may give it find nothing due.
        subst hhead
        have hrests := janitor.not_dueAt_wake session.uptime session.turn
          (session.lingers session.turn)
        obtain ⟨turn, lingers, hwoken⟩ := ih (janitorAt?_wakeAt_self h)
          (Or.inr (by rw [huptime]; exact hrests))
        refine ⟨session.turn, session.lingers session.turn, hwoken.trans ?_⟩
        rw [huptime, Janitor.wake_of_not_dueAt hrests]
      · have hsame := (janitorAt?_wakeAt_of_ne hhead).trans h
        have hturn' : post ∈ rest ∨ ¬janitor.DueAt (session.wakeAt head).1.uptime := by
          rw [huptime]
          exact hturn.imp_left (List.mem_of_ne_of_mem fun heq => hhead heq.symm)
        obtain ⟨turn, lingers, hwoken⟩ := ih hsame hturn'
        rw [huptime] at hwoken
        exact ⟨turn, lingers, hwoken⟩

/-- A cache with one janitor wakes with it alone. -/
theorem cache?_wakeEach (hqueued : session.clock.queued = [])
    (h : session.cache? place = some cache) (hsole : cache.Sole janitor) {order : List Post}
    (hturn : ⟨place, .resident⟩ ∈ order ∨ ¬janitor.DueAt session.uptime) :
    ∃ turn lingers, (session.wakeEach order).1.cache? place =
      some (cache.wake .resident session.uptime turn lingers session.clock).1 := by
  induction order generalizing session cache janitor with
  | nil =>
      have hrests : cache.RestsAt .resident session.uptime := fun found hfound =>
        Option.some.inj (hsole.1.symm.trans hfound) ▸ hturn.resolve_left List.not_mem_nil
      refine ⟨session.turn, 0, ?_⟩
      rw [Cache.wake_of_rests hrests]
      exact h
  | cons head rest ih =>
      have huptime := uptime_wakeAt session head
      have hclock := clock_wakeAt hqueued head
      have hqueued' : (session.wakeAt head).1.clock.queued = [] := by rw [hclock, hqueued]
      by_cases hhead : head = ⟨place, .resident⟩
      · subst hhead
        have hrests := cache.restsAt_wake .resident session.uptime session.turn
          (session.lingers session.turn) session.clock
        have hwoken := hsole.wake session.uptime session.turn (session.lingers session.turn)
          session.clock
        obtain ⟨turn, lingers, hlater⟩ := ih hqueued' (cache?_wakeAt_self h) hwoken
          (Or.inr (by rw [huptime]; exact hrests _ hwoken.1))
        refine ⟨session.turn, session.lingers session.turn, hlater.trans (congrArg some ?_)⟩
        rw [huptime]
        exact Cache.wake_of_rests hrests turn lingers _
      · have hsame : (session.wakeAt head).1.cache? place = some cache := by
          by_cases hplace : head.place = place
          · -- No other janitor is there.
            subst hplace
            have hstation : head.station ≠ .resident := fun heq => hhead (heq ▸ rfl)
            rw [cache?_wakeAt_self h, Cache.wake_of_none (hsole.janitorAt?_of_ne hstation)]
          · rw [cache?_wakeAt_of_ne hplace, h]
        have hturn' : ⟨place, .resident⟩ ∈ rest ∨
            ¬janitor.DueAt (session.wakeAt head).1.uptime := by
          rw [huptime]
          exact hturn.imp_left (List.mem_of_ne_of_mem fun heq => hhead heq.symm)
        obtain ⟨turn, lingers, hwoken⟩ := ih hqueued' hsame hsole hturn'
        rw [huptime, hclock] at hwoken
        exact ⟨turn, lingers, hwoken⟩

/-! ### The whole session -/

theorem mem_janitors :
    (post, janitor) ∈ session.janitors ↔ session.janitorAt? post = some janitor := by
  rw [janitorAt?_eq_some_iff, janitors, List.mem_flatMap]
  constructor
  · rintro ⟨⟨cache?, place⟩, hplace, hmem⟩
    obtain ⟨cache, hcache, hmem⟩ := List.mem_flatMap.1 hmem
    obtain ⟨⟨station, found⟩, hfound, heq⟩ := List.mem_map.1 hmem
    obtain ⟨rfl, rfl⟩ := Prod.mk.inj heq
    obtain rfl := Option.mem_toList.1 hcache
    refine ⟨cache, ?_, Cache.mem_janitors.1 hfound⟩
    exact Option.join_eq_some_iff.2 (List.mem_zipIdx_iff_getElem?.1 hplace)
  · rintro ⟨cache, hkept, hjanitor⟩
    refine ⟨(some cache, post.place), ?_, List.mem_flatMap.2 ⟨cache, ?_, ?_⟩⟩
    · exact List.mem_zipIdx_iff_getElem?.2 (Option.join_eq_some_iff.1 hkept)
    · exact Option.mem_toList.2 rfl
    · exact List.mem_map.2 ⟨(post.station, janitor), Cache.mem_janitors.2 hjanitor, rfl⟩

theorem mem_wakeOrder (h : session.janitorAt? post = some janitor)
    (hdue : janitor.DueAt session.uptime) : post ∈ session.wakeOrder := by
  refine List.mem_map.2 ⟨(post, janitor), List.mem_mergeSort.2 (List.mem_filter.2 ⟨?_, ?_⟩), rfl⟩
  · exact mem_janitors.2 h
  · exact decide_eq_true hdue

theorem uptime_wake (session : Session) : session.wake.1.uptime = session.uptime :=
  uptime_wakeEach session _

theorem clock_wake (hqueued : session.clock.queued = []) :
    session.wake.1.clock = session.clock :=
  clock_wakeEach hqueued _

theorem mem_wakeOrder_or_rests (h : session.janitorAt? post = some janitor) :
    post ∈ session.wakeOrder ∨ ¬janitor.DueAt session.uptime := by
  by_cases hdue : janitor.DueAt session.uptime
  · exact Or.inl (mem_wakeOrder h hdue)
  · exact Or.inr hdue

theorem janitorAt?_wake (h : session.janitorAt? post = some janitor) :
    ∃ turn lingers, session.wake.1.janitorAt? post =
      some (janitor.wake session.uptime turn lingers).2 :=
  janitorAt?_wakeEach h (mem_wakeOrder_or_rests h)

theorem not_dueAt_of_janitorAt?_wake (h : session.wake.1.janitorAt? post = some janitor) :
    ¬janitor.DueAt session.uptime := by
  cases hbefore : session.janitorAt? post with
  | none => exact (Option.some_ne_none janitor
      (h.symm.trans (janitorAt?_wakeEach_of_none hbefore session.wakeOrder))).elim
  | some before =>
      obtain ⟨turn, lingers, hwoken⟩ := janitorAt?_wake hbefore
      obtain rfl := Option.some.inj (hwoken.symm.trans h)
      exact before.not_dueAt_wake session.uptime turn lingers

theorem cache?_wake (hqueued : session.clock.queued = [])
    (h : session.cache? place = some cache) (hsole : cache.Sole janitor) :
    ∃ turn lingers, session.wake.1.cache? place =
      some (cache.wake .resident session.uptime turn lingers session.clock).1 := by
  have hjanitor : session.janitorAt? ⟨place, .resident⟩ = some janitor :=
    (janitorAt?_of_cache? h .resident).trans hsole.1
  exact cache?_wakeEach hqueued h hsole (mem_wakeOrder_or_rests hjanitor)

end Session

end ExpiringCache
