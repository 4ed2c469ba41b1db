import ExpiringCache.Proofs.Janitor.Jump
import ExpiringCache.Proofs.Session.Reach
import ExpiringCache.Proofs.Session.Staleness
import Mathlib.Algebra.BigOperators.Group.List.Basic
import Mathlib.Algebra.GroupWithZero.Nat
/-!
# The sweeps that an advance brings

An advance logs as many sweeps as `Janitor.sweepsBy` counts over the janitors that are due, each in
its turn: no janitor changes what another one has to do. Whether that can be more than one for a
running janitor depends on its interval alone.
-/

namespace ExpiringCache

open Log

def Log.Event.isSweep : Event → Bool
  | .swept _ => true
  | _ => false

namespace Duration

theorem exists_toNanos_eq {nanos : Nat} (h : nanos < UInt64.size) :
    ∃ elapsed : Duration, elapsed.toNanos = nanos := by
  have hseconds : nanos / nanosPerSecond < UInt64.size := (Nat.div_le_self _ _).trans_lt h
  have hnanos : nanos % nanosPerSecond < nanosPerSecond := Nat.mod_lt _ (by decide)
  exact ⟨⟨nanos / nanosPerSecond, nanos % nanosPerSecond, hseconds, hnanos⟩,
    Nat.div_add_mod nanos nanosPerSecond⟩

end Duration

theorem Janitor.lasting_regular : Janitor.Lasting Janitor.Regular where
  start := regular_start
  wake := fun _ now turn lingers h => h.wake now turn lingers
  stop := fun _ h => h.stop

namespace Cache

variable {ν : Type} {cache : Cache ν} {station : Station} {now : Nat}

def sweepsBy (cache : Cache ν) (station : Station) (now lingers : Nat) : Nat :=
  (cache.janitorAt? station).elim 0 fun janitor => janitor.sweepsBy now lingers

theorem sweepsBy_of_janitor {janitor : Janitor} (h : cache.janitorAt? station = some janitor)
    (now lingers : Nat) : cache.sweepsBy station now lingers = janitor.sweepsBy now lingers := by
  rw [sweepsBy, h, Option.elim_some]

theorem countP_sweep (store : Store String ν) (clock : Clock) (n : Nat) :
    (sweep store clock n).2.2.countP Event.isSweep = n := by
  induction n generalizing store clock with
  | zero => rfl
  | succ n ih => exact (List.countP_cons_of_pos rfl).trans (congrArg (· + 1) (ih _ _))

theorem countP_farewell (before after : Janitor) :
    (before.farewell after).countP Event.isSweep = 0 := by
  unfold Janitor.farewell
  split <;> rfl

theorem countP_wake (cache : Cache ν) (station : Station) (now turn lingers : Nat)
    (clock : Clock) :
    (cache.wake station now turn lingers clock).2.2.countP Event.isSweep =
      cache.sweepsBy station now lingers := by
  cases hjanitor : cache.janitorAt? station with
  | none =>
      rw [wake_of_none hjanitor, sweepsBy, hjanitor]
      rfl
  | some janitor =>
      simp only [wake, hjanitor]
      rw [List.countP_append, countP_sweep, countP_farewell, Nat.add_zero, Janitor.fst_wake,
        sweepsBy_of_janitor hjanitor]

end Cache

namespace Session

variable {session : Session} {place : Nat} {post : Post} {cache : Cache Payload}
  {interval : Duration} {order : List Post} {now : Nat}

/-! ### The order of a wake -/

theorem nodup_posts (session : Session) : (session.janitors.map Prod.fst).Nodup := by
  have hposts : session.janitors.map Prod.fst =
      session.caches.zipIdx.flatMap fun kept => kept.1.toList.flatMap fun cache =>
        (cache.janitors.map Prod.fst).map (Post.mk kept.2) := by
    simp only [janitors, List.map_flatMap, List.map_map, Function.comp_def]
  have hplaces : session.caches.zipIdx.Pairwise fun a b => a.2 ≠ b.2 := by
    rw [← List.pairwise_map (f := Prod.snd), List.zipIdx_map_snd]
    exact List.nodup_range'
  have hblock : ∀ {cache? : Option (Cache Payload)} {place : Nat} {post : Post},
      post ∈ (cache?.toList.flatMap fun cache =>
        (cache.janitors.map Prod.fst).map (Post.mk place)) → post.place = place := by
    intro cache? place post hmem
    obtain ⟨cache, -, hmem⟩ := List.mem_flatMap.1 hmem
    obtain ⟨station, -, rfl⟩ := List.mem_map.1 hmem
    rfl
  rw [hposts, List.nodup_flatMap]
  refine ⟨fun kept _ => ?_, hplaces.imp fun hne => ?_⟩
  · cases kept.1 with
    | none => exact List.nodup_nil
    | some cache =>
        have hinj : Function.Injective (Post.mk kept.2) := fun _ _ heq => (Post.mk.inj heq).2
        simpa using cache.nodup_stations.map hinj
  · exact fun post hmem hmem' => hne ((hblock hmem).symm.trans (hblock hmem'))

theorem mem_wakeOrder_iff : post ∈ session.wakeOrder ↔
    ∃ janitor, session.janitorAt? post = some janitor ∧ janitor.DueAt session.uptime := by
  refine ⟨fun hmem => ?_, fun ⟨janitor, hjanitor, hdue⟩ => mem_wakeOrder hjanitor hdue⟩
  obtain ⟨⟨found, janitor⟩, hfound, rfl⟩ := List.mem_map.1 hmem
  obtain ⟨hthere, hdue⟩ := List.mem_filter.1 (List.mem_mergeSort.1 hfound)
  exact ⟨janitor, mem_janitors.1 hthere, of_decide_eq_true hdue⟩

theorem nodup_wakeOrder (session : Session) : session.wakeOrder.Nodup := by
  rw [wakeOrder, ((List.mergeSort_perm _ _).map Prod.fst).nodup_iff]
  exact session.nodup_posts.sublist (List.filter_sublist.map Prod.fst)

/-! ### From what is due into the log -/

/-- The number of sweeps that the janitors at the posts do at a moment, one after the other from a
turn on. -/
def sweepsInOrder (session : Session) (now : Nat) : Nat → List Post → Nat
  | _, [] => 0
  | turn, post :: rest =>
    (session.janitorAt? post).elim 0 (fun janitor => janitor.sweepsBy now (session.lingers turn)) +
      session.sweepsInOrder now (turn + 1) rest

theorem sweepsInOrder_congr {after : Session} (hlingers : after.lingers = session.lingers)
    (h : ∀ post ∈ order, after.janitorAt? post = session.janitorAt? post) (now turn : Nat) :
    after.sweepsInOrder now turn order = session.sweepsInOrder now turn order := by
  induction order generalizing turn with
  | nil => rfl
  | cons head rest ih =>
      obtain ⟨hhead, hrest⟩ := List.forall_mem_cons.1 h
      rw [sweepsInOrder, sweepsInOrder, hhead, hlingers, ih hrest]

theorem lingers_wakeAt (session : Session) (post : Post) :
    (session.wakeAt post).1.lingers = session.lingers := by
  unfold wakeAt
  split <;> rfl

theorem turn_wakeAt (h : (session.janitorAt? post).isSome) :
    (session.wakeAt post).1.turn = session.turn + 1 := by
  obtain ⟨janitor, hjanitor⟩ := Option.isSome_iff_exists.1 h
  obtain ⟨cache, hkept, -⟩ := janitorAt?_eq_some_iff.1 hjanitor
  rw [wakeAt_of_kept? hkept]

theorem countP_wakeAt {janitor : Janitor} (h : session.janitorAt? post = some janitor) :
    (session.wakeAt post).2.countP Event.isSweep =
      janitor.sweepsBy session.uptime (session.lingers session.turn) := by
  obtain ⟨cache, hkept, hjanitor⟩ := janitorAt?_eq_some_iff.1 h
  rw [wakeAt_of_kept? hkept]
  exact (cache.countP_wake _ _ _ _ _).trans (Cache.sweepsBy_of_janitor hjanitor _ _)

/-- No wake changes what the others still have to do, as each janitor has one turn. -/
theorem countP_wakeEach (hposts : ∀ post ∈ order, (session.janitorAt? post).isSome)
    (hnodup : order.Nodup) :
    (session.wakeEach order).2.countP Event.isSweep =
      session.sweepsInOrder session.uptime session.turn order := by
  induction order generalizing session with
  | nil => rfl
  | cons head rest ih =>
      obtain ⟨hhead, hrest⟩ := List.forall_mem_cons.1 hposts
      obtain ⟨hfresh, hnodup⟩ := List.nodup_cons.1 hnodup
      obtain ⟨janitor, hjanitor⟩ := Option.isSome_iff_exists.1 hhead
      have hothers : ∀ post ∈ rest,
          (session.wakeAt head).1.janitorAt? post = session.janitorAt? post :=
        fun post hmem => janitorAt?_wakeAt_of_ne fun heq => hfresh (heq ▸ hmem)
      have hlater := ih (fun post hmem => by rw [hothers post hmem]; exact hrest post hmem) hnodup
      rw [uptime_wakeAt, turn_wakeAt hhead,
        sweepsInOrder_congr (session.lingers_wakeAt head) hothers] at hlater
      calc ((session.wakeAt head).2 ++
              ((session.wakeAt head).1.wakeEach rest).2).countP Event.isSweep
          = janitor.sweepsBy session.uptime (session.lingers session.turn) +
              session.sweepsInOrder session.uptime (session.turn + 1) rest := by
            rw [List.countP_append, countP_wakeAt hjanitor, hlater]
        _ = session.sweepsInOrder session.uptime session.turn (head :: rest) := by
            rw [sweepsInOrder, hjanitor, Option.elim_some]

theorem countP_advance (session : Session) (elapsed : Duration) :
    (session.advance elapsed).2.countP Event.isSweep =
      session.sweepsInOrder (session.uptime + elapsed.toNanos) session.turn
        (session.pass elapsed).wakeOrder := by
  have hposts : ∀ post ∈ (session.pass elapsed).wakeOrder,
      ((session.pass elapsed).janitorAt? post).isSome := by
    intro post hmem
    obtain ⟨janitor, hjanitor, -⟩ := mem_wakeOrder_iff.1 hmem
    exact Option.isSome_iff_exists.2 ⟨janitor, hjanitor⟩
  have hlingers : (session.pass elapsed).lingers = session.lingers := rfl
  have hlog := countP_wakeEach hposts (session.pass elapsed).nodup_wakeOrder
  exact hlog.trans (sweepsInOrder_congr hlingers (fun _ _ => rfl) _ _)

/-! ### Two sweeps in one advance -/

/-- The only janitor at the place sweeps with the given interval and period, next at the given
moment. -/
def SweepsNext (session : Session) (place : Nat) (interval : Duration) (period due : Nat) : Prop :=
  ∃ cache janitor, session.cache? place = some cache ∧ cache.Sole janitor ∧
    janitor.phase = .sweeping ∧ janitor.interval = Janitor.effectiveInterval interval ∧
    janitor.schedule.period = period ∧ janitor.schedule.due = due

variable {period due : Nat}

theorem sweepsNext_withManaged (huptime : session.uptime = 0) (interval : Duration) :
    (session.withManaged interval).SweepsNext session.caches.length interval
      (Janitor.period session.timer interval).toNanos
      (Janitor.period session.timer interval).toNanos := by
  have hcache := session.cache?_withManaged interval
  rw [huptime] at hcache
  exact ⟨_, _, hcache, ⟨rfl, rfl⟩, Janitor.start_zero session.timer interval session.turn⟩

/-- A late sweep puts the next one a period after the end of the advance, if that is on the grid. -/
theorem SweepsNext.advance_of_late (h : session.SweepsNext place interval period due)
    (hqueued : session.clock.queued = []) {elapsed : Duration}
    (hlate : due + Schedule.lateness < session.uptime + elapsed.toNanos)
    (hgrid : period ∣ session.uptime + elapsed.toNanos - due) :
    (session.advance elapsed).1.SweepsNext place interval period
      (session.uptime + elapsed.toNanos + period) := by
  obtain ⟨cache, janitor, hcache, hsole, hphase, hinterval, rfl, rfl⟩ := h
  have hpassed : (session.pass elapsed).cache? place = some cache := hcache
  have hqueued' : (session.pass elapsed).clock.queued = [] := hqueued
  obtain ⟨turn, lingers, hwoken⟩ := cache?_wake hqueued' hpassed hsole
  have hwake := Janitor.wake_of_late_on_grid hphase hlate hgrid turn lingers
  have hkept := janitor.period_interval_wake (session.uptime + elapsed.toNanos) turn lingers
  exact ⟨_, _, hwoken, hsole.wake _ _ _ _, hwake.1, hkept.2.trans hinterval, hkept.1, hwake.2⟩

/-- An advance by twice a short period that ends with a millisecond takes two sweeps, if the first
of them is due halfway. -/
theorem SweepsNext.two_le_sweepsBy (h : session.SweepsNext place interval period due)
    (hshort : period ≤ Schedule.lateness) (hnext : due + period = now)
    (hmilli : Schedule.milliStart now = now) (lingers : Nat) :
    ∃ cache janitor, session.cache? place = some cache ∧ cache.janitor? = some janitor ∧
      janitor.running ∧ janitor.interval = Janitor.effectiveInterval interval ∧
      2 ≤ cache.sweepsBy .resident now lingers := by
  obtain ⟨cache, janitor, hcache, hsole, hphase, hinterval, hperiod, rfl⟩ := h
  have hjanitor : cache.janitorAt? .resident = some janitor := hsole.1
  refine ⟨cache, janitor, hcache, hsole.1, Janitor.running_of_sweeping hphase, hinterval, ?_⟩
  rw [Cache.sweepsBy_of_janitor hjanitor, Janitor.sweepsBy_of_sweeping hphase]
  apply Schedule.two_le_beatsBy
  · rw [hmilli, hperiod]
    exact hnext.le
  · rw [← hnext]
    exact Nat.add_le_add_left hshort _

/-- As many periods as a millisecond has nanoseconds end with a millisecond. The first advance ends
two periods before that and is late; the second one takes both sweeps that are left, if the period
is short. -/
theorem exists_reached_two_sweeps
    (hshort : (Janitor.effectiveInterval interval).toNanos ≤ Schedule.lateness) (lingers : Nat) :
    ∃ (session : Session) (elapsed : Duration) (place : Nat) (cache : Cache Payload)
      (janitor : Janitor), session.Reached ∧ session.cache? place = some cache ∧
      cache.janitor? = some janitor ∧ janitor.running ∧
      janitor.interval = Janitor.effectiveInterval interval ∧
      2 ≤ cache.sweepsBy .resident (session.uptime + elapsed.toNanos) lingers := by
  have hleast := Janitor.nanosPerMilli_le_toNanos_effectiveInterval interval
  set period := (Janitor.effectiveInterval interval).toNanos
  have hbound : 999998 * period < UInt64.size := by
    simp only [Schedule.lateness, nanosPerMilli, UInt64.size] at *
    omega
  obtain ⟨far, hfar⟩ := Duration.exists_toNanos_eq hbound
  have hbound' : 2 * period < UInt64.size := by omega
  obtain ⟨near, hnear⟩ := Duration.exists_toNanos_eq hbound'
  let outset : Session := { clock := { steady := { seconds := 0 } }, timer := .unlimited }
  let created := outset.withManaged interval
  have huptime : created.uptime + far.toNanos = 999998 * period := (Nat.zero_add _).trans hfar
  have hlate : period + Schedule.lateness < created.uptime + far.toNanos := by
    simp only [huptime, Schedule.lateness, nanosPerMilli] at *
    omega
  have hgrid : period ∣ created.uptime + far.toNanos - period :=
    ⟨999997, by rw [huptime]; omega⟩
  have hfirst : created.SweepsNext 0 interval period period := sweepsNext_withManaged rfl interval
  have hnext := hfirst.advance_of_late rfl hlate hgrid
  have hend : (created.advance far).1.uptime + near.toNanos = nanosPerMilli * period := by
    rw [uptime_advance, huptime, hnear, ← Nat.add_mul]
  have hgap : created.uptime + far.toNanos + period + period =
      (created.advance far).1.uptime + near.toNanos := by
    rw [uptime_advance, hnear]
    omega
  have hmilli : Schedule.milliStart ((created.advance far).1.uptime + near.toNanos) =
      (created.advance far).1.uptime + near.toNanos := by
    rw [hend, Schedule.milliStart_mul]
  have hcreated : created.Reached := .add (.managed interval true) (.outset _ _ _)
  obtain ⟨cache, janitor, htwo⟩ := hnext.two_le_sweepsBy hshort hgap hmilli lingers
  exact ⟨_, near, _, cache, janitor, hcreated.advance far, htwo⟩

/-- **The sweeps of one advance.** An advance wakes every janitor that is due once, and logs exactly
the sweeps that are due then; afterwards every running janitor waits for a later moment. A running
janitor sweeps at most once in any advance if its interval is longer than the lateness that leaves
no due time out; with a shorter one some advance makes it sweep several times. -/
theorem sweeps_of_one_advance (interval : Duration) :
    (∀ (session : Session) (elapsed : Duration),
      let now := session.uptime + elapsed.toNanos
      (∀ (cache : Cache Payload) (station : Station) (turn lingers : Nat) (clock : Clock),
        (cache.wake station now turn lingers clock).2.2.countP Event.isSweep =
          cache.sweepsBy station now lingers) ∧
      (session.pass elapsed).wakeOrder.Nodup ∧
      (∀ post, post ∈ (session.pass elapsed).wakeOrder ↔
        ∃ janitor, session.janitorAt? post = some janitor ∧ janitor.DueAt now) ∧
      (session.advance elapsed).2.countP Event.isSweep =
        session.sweepsInOrder now session.turn (session.pass elapsed).wakeOrder ∧
      ∀ (place : Nat) (cache : Cache Payload) (janitor : Janitor),
        (session.advance elapsed).1.cache? place = some cache →
        cache.janitor? = some janitor → janitor.running →
        now < janitor.schedule.dueMilli * nanosPerMilli) ∧
    ((∀ (session : Session) (elapsed : Duration) (place : Nat) (cache : Cache Payload)
        (janitor : Janitor) (lingers : Nat), session.Reached →
        session.cache? place = some cache → cache.janitor? = some janitor → janitor.running →
        janitor.interval = Janitor.effectiveInterval interval →
        cache.sweepsBy .resident (session.uptime + elapsed.toNanos) lingers ≤ 1) ↔
      Schedule.lateness < (Janitor.effectiveInterval interval).toNanos) := by
  refine ⟨fun session elapsed => ⟨fun cache station turn lingers clock => ?_, ?_, fun post => ?_,
    ?_, ?_⟩, ?_, ?_⟩
  · exact cache.countP_wake station _ turn lingers clock
  · exact (session.pass elapsed).nodup_wakeOrder
  · exact mem_wakeOrder_iff
  · exact session.countP_advance elapsed
  · intro place cache janitor hcache hjanitor hrunning
    have hthere : (session.pass elapsed).wake.1.janitorAt? ⟨place, .resident⟩ = some janitor :=
      (janitorAt?_of_cache? hcache .resident).trans hjanitor
    have hphase := Janitor.phase_ne_stopped_of_running hrunning
    have hnot : ¬janitor.schedule.DueAt (session.pass elapsed).uptime :=
      fun hdue => not_dueAt_of_janitorAt?_wake hthere ⟨hphase, hdue⟩
    exact Schedule.lt_dueMilli_of_not_dueAt hnot
  · intro hone
    by_contra hshort
    obtain ⟨session, elapsed, place, cache, janitor, hreached, hcache, hjanitor, hrunning,
      hinterval, htwo⟩ := exists_reached_two_sweeps (Nat.le_of_not_lt hshort) 0
    have hle := hone session elapsed place cache janitor 0 hreached hcache hjanitor hrunning
      hinterval
    omega
  · intro hlong session elapsed place cache janitor lingers hreached hcache hjanitor _ hinterval
    have hthere : cache.janitorAt? .resident = some janitor := hjanitor
    have hregular : janitor.Regular :=
      hreached.hasCaches (Cache.lasting_hasJanitors Janitor.lasting_regular) place cache hcache
        .resident janitor hthere
    have hperiod : Schedule.lateness < janitor.schedule.period := by
      rw [hregular.lateness_lt_period_iff, hinterval]
      exact hlong
    rw [Cache.sweepsBy_of_janitor hthere]
    exact (janitor.sweepsBy_le_beatsBy _ _).trans (Schedule.beatsBy_le_one hperiod)

/-- Swept every millisecond, a cache of its own session is swept three times in one advance. -/
theorem three_sweeps_of_one_advance :
    let session := ({ clock := { steady := { seconds := 0 } } } : Session).withManaged (.ofMillis 1)
    session.Reached ∧
      (∃ cache janitor, session.caches = [some cache] ∧ cache.janitor? = some janitor ∧
        janitor.running) ∧
      (session.advance (.ofMillis 3)).2.countP Event.isSweep = 3 := by
  intro session
  let cache : Cache Payload := .create .standard (.ofMillis 1) 0 0
  obtain ⟨hphase, -, -, -⟩ := Janitor.start_zero .standard (.ofMillis 1) 0
  refine ⟨.add (.managed (.ofMillis 1) true) (.outset _ _ _), ⟨cache, _, rfl, rfl, ?_⟩, ?_⟩
  · exact Janitor.running_of_sweeping hphase
  · decide +kernel

end Session

end ExpiringCache
