import ExpiringCache.Proofs.Session.Steps
/-!
# How long expired entries stay

A managed cache that starts with a millisecond never shows an entry that expired more than a sweep
interval and a millisecond ago. One that starts within a millisecond waits for its first beat, which
does not sweep. If a single advance makes that beat late, due times are left out after it, and what
has expired meanwhile stays until the beat after it.
-/

namespace ExpiringCache

namespace Session

variable {session : Session} {place period start last : Nat} {schedule : Schedule} {ahead : Int}

def run (session : Session) : List Step → Session
  | [] => session
  | step :: rest => (session.next step).run rest

/-- The wall clock is less than `bound` nanoseconds past the expiry of every entry at the place. -/
def StaleBelow (session : Session) (place bound : Nat) : Prop :=
  ∃ cache, session.cache? place = some cache ∧
    ∀ key entry, cache.store.table.get? key = some entry →
      session.clock.steady.toNanos < entry.expiresAt.toNanos + bound

/-- The janitor at the place awaits its first beat, and an advance makes that beat late: the beat
was due at `start`. -/
def FirstBeatLate (session : Session) (place start : Nat) (elapsed : Duration) : Prop :=
  (∃ cache janitor, session.cache? place = some cache ∧ cache.janitor? = some janitor ∧
    janitor.phase = .starting) ∧
    start + Schedule.lateness < session.uptime + elapsed.toNanos

/-! ### Bounds -/

theorem Awaits.staleBelow (h : session.Awaits place schedule ahead) (period : Nat) :
    session.StaleBelow place (period + nanosPerMilli) := by
  obtain ⟨cache, janitor, hcache, -, -, -, hentries⟩ := h.tends
  refine ⟨cache, hcache, fun key entry hfound => ?_⟩
  have hexpiry := hentries key entry hfound
  have hbefore := Schedule.lt_of_not_dueAt h.not_due
  rw [h.keepsTime.steady_eq]
  omega

theorem Sweeps.staleBelow (h : session.Sweeps place period ahead) :
    session.StaleBelow place (period + nanosPerMilli) := by
  obtain ⟨hkeeps, schedule, htends, -, -, hnot⟩ := h
  obtain ⟨cache, janitor, hcache, -, -, -, hentries⟩ := htends
  refine ⟨cache, hcache, fun key entry hfound => ?_⟩
  have hexpiry := hentries key entry hfound
  have hbefore := Schedule.lt_of_not_dueAt hnot
  rw [hkeeps.steady_eq]
  omega

theorem Lags.uptime_lt (h : session.Lags place period ahead start last) :
    session.uptime < last + (period + nanosPerMilli) := by
  obtain ⟨-, ⟨schedule, -, -, hle, hnot⟩, -, -⟩ := h
  calc session.uptime < schedule.due + nanosPerMilli := Schedule.lt_of_not_dueAt hnot
    _ ≤ last + period + nanosPerMilli := Nat.add_le_add_right hle _
    _ = last + (period + nanosPerMilli) := Nat.add_assoc _ _ _

/-! ### Runs -/

section Runs

variable {steps : List Step}

theorem KeepsTime.run (h : session.KeepsTime ahead) (hsteps : ∀ step ∈ steps, step.LetsRun place) :
    (session.run steps).KeepsTime ahead := by
  induction steps generalizing session with
  | nil => exact h
  | cons step rest ih =>
      obtain ⟨hstep, hrest⟩ := List.forall_mem_cons.1 hsteps
      exact ih (h.next hstep) hrest

theorem uptime_le_run (hsteps : ∀ step ∈ steps, step.LetsRun place) :
    session.uptime ≤ (session.run steps).uptime := by
  induction steps generalizing session with
  | nil => exact le_rfl
  | cons step rest ih =>
      obtain ⟨hstep, hrest⟩ := List.forall_mem_cons.1 hsteps
      exact (uptime_le_next hstep).trans (ih hrest)

theorem KeepsTime.steady_le_last (h : session.KeepsTime ahead)
    (hsteps : ∀ step ∈ steps, step.LetsRun place)
    (hlast : (session.run steps).clock.steady ≤ Instant.last) :
    session.clock.steady ≤ Instant.last := by
  have huptime : session.uptime ≤ (session.run steps).uptime := uptime_le_run hsteps
  rw [Instant.le_iff] at hlast ⊢
  calc session.clock.steady.toNanos = ahead + session.uptime := h.steady_eq
    _ ≤ ahead + (session.run steps).uptime := by omega
    _ = (session.run steps).clock.steady.toNanos := (h.run hsteps).steady_eq.symm
    _ ≤ Instant.last.toNanos := hlast

theorem Sweeps.run (h : session.Sweeps place period ahead)
    (hsteps : ∀ step ∈ steps, step.LetsRun place)
    (hlast : (session.run steps).clock.steady ≤ Instant.last) :
    (session.run steps).Sweeps place period ahead := by
  induction steps generalizing session with
  | nil => exact h
  | cons step rest ih =>
      obtain ⟨hstep, hrest⟩ := List.forall_mem_cons.1 hsteps
      have hnow := h.keepsTime.steady_le_last hsteps hlast
      exact ih (h.next hnow hstep) hrest hlast

theorem Lags.run (h : session.Lags place period ahead start last)
    (hsteps : ∀ step ∈ steps, step.LetsRun place)
    (hlast : (session.run steps).clock.steady ≤ Instant.last) :
    (session.run steps).Lags place period ahead start last ∨
      (session.run steps).Sweeps place period ahead := by
  induction steps generalizing session with
  | nil => exact Or.inl h
  | cons step rest ih =>
      obtain ⟨hstep, hrest⟩ := List.forall_mem_cons.1 hsteps
      have hnow := h.keepsTime.steady_le_last hsteps hlast
      rcases h.next hnow hstep with hlags | hsweeps
      · exact ih hlags hrest hlast
      · exact Or.inr (hsweeps.run hrest hlast)

/-- A place whose janitor awaits its first beat still does after a run, or is on time, or lags
behind one advance that made the first beat late. -/
theorem Awaits.run (h : session.Awaits place schedule ahead) (hperiod : schedule.period ≤ period)
    (hsteps : ∀ step ∈ steps, step.LetsRun place)
    (hlast : (session.run steps).clock.steady ≤ Instant.last) :
    (session.run steps).Awaits place schedule ahead ∨
      (session.run steps).Sweeps place period ahead ∨
      ∃ before elapsed after, steps = before ++ .advance elapsed :: after ∧
        (session.run before).FirstBeatLate place schedule.due elapsed ∧
        (session.run steps).Lags place period ahead schedule.due
          ((session.run before).uptime + elapsed.toNanos) := by
  -- The first beat is late at one step at most: before it the place waits, after it it lags.
  induction steps generalizing session with
  | nil => exact Or.inl h
  | cons step rest ih =>
      obtain ⟨hstep, hrest⟩ := List.forall_mem_cons.1 hsteps
      have hnow := h.keepsTime.steady_le_last hsteps hlast
      rcases h.next hperiod hnow hstep with hawaits | hsweeps | ⟨elapsed, rfl, hlate, hlags⟩
      · rcases ih hawaits hrest hlast with hawaits | hsweeps | ⟨before, elapsed, after, rfl, hlags⟩
        · exact Or.inl hawaits
        · exact Or.inr (Or.inl hsweeps)
        · exact Or.inr (Or.inr ⟨step :: before, elapsed, after, rfl, hlags⟩)
      · exact Or.inr (Or.inl (hsweeps.run hrest hlast))
      · have huptime : (session.next (.advance elapsed)).uptime =
            session.uptime + elapsed.toNanos := uptime_advance session elapsed
        rw [huptime] at hlate hlags
        rcases hlags.run hrest hlast with hlags | hsweeps
        · obtain ⟨cache, janitor, hcache, hsole, hphase, -, -⟩ := h.tends
          refine Or.inr (Or.inr ⟨[], elapsed, rest, rfl, ?_, hlags⟩)
          exact ⟨⟨cache, janitor, hcache, hsole.1, hphase⟩, hlate⟩
        · exact Or.inr (Or.inl hsweeps)

end Runs

/-! ### A new managed cache -/

def withManaged (session : Session) (interval : Duration) : Session :=
  (session.add (.managed interval true)).2.1

theorem cache?_withManaged (session : Session) (interval : Duration) :
    (session.withManaged interval).cache? session.caches.length =
      some (Cache.create session.timer interval session.uptime session.turn) := by
  refine cache?_eq_some_iff.2 ⟨?_, rfl⟩
  change ((session.caches ++ [some _])[session.caches.length]?).join = _
  rw [List.getElem?_concat_length]
  rfl

theorem tends_withManaged {interval : Duration} {phase : Phase}
    (h : (Janitor.start session.timer interval session.uptime session.turn).phase = phase ∧
      (Janitor.start session.timer interval session.uptime session.turn).schedule = schedule)
    (since : Int) :
    (session.withManaged interval).Tends session.caches.length phase schedule since :=
  ⟨_, _, session.cache?_withManaged interval, ⟨rfl, rfl⟩, h.1, h.2, Store.expiresFrom_empty since⟩

theorem keepsTime_withManaged (hqueued : session.clock.queued = []) (interval : Duration) :
    (session.withManaged interval).KeepsTime (session.clock.steady.toNanos - session.uptime) :=
  ⟨hqueued, (Int.sub_add_cancel _ _).symm⟩

theorem sweeps_withManaged (hqueued : session.clock.queued = []) (interval : Duration)
    (hmilli : session.uptime % nanosPerMilli = 0) :
    (session.withManaged interval).Sweeps session.caches.length
      (Janitor.effectiveInterval interval).toNanos
      (session.clock.steady.toNanos - session.uptime) := by
  have hstart := Janitor.start_of_mod_eq_zero session.timer interval hmilli session.turn
  have hperiod := Janitor.period_le_effectiveInterval session.timer interval
  have hnext := Janitor.due_step_firstSchedule session.timer interval session.uptime
  refine ⟨keepsTime_withManaged hqueued interval, _, tends_withManaged hstart _, hperiod, ?_, ?_⟩
  · exact hnext.trans_le (Nat.add_le_add_left hperiod _)
  · exact Janitor.not_dueAt_step_firstSchedule session.timer interval session.uptime

theorem awaits_withManaged (hqueued : session.clock.queued = []) (interval : Duration)
    (hmilli : session.uptime % nanosPerMilli ≠ 0) :
    (session.withManaged interval).Awaits session.caches.length
      (Janitor.firstSchedule session.timer interval session.uptime)
      (session.clock.steady.toNanos - session.uptime) := by
  have hstart := Janitor.start_of_mod_ne_zero session.timer interval hmilli session.turn
  refine ⟨keepsTime_withManaged hqueued interval, tends_withManaged hstart _, le_rfl, ?_⟩
  exact fun hdue => hmilli ((Schedule.dueAt_self_iff _).1 hdue)

/-! ### A late first beat -/

/-- A write whose time to live is nothing, and an advance after it. -/
def writeThenWait (place : Nat) (key : String) (payload : Payload) (elapsed : Duration) :
    List Step :=
  [.command place (.serve (.put key payload (.ofSeconds 0))), .advance elapsed]

theorem letsRun_writeThenWait (place : Nat) (key : String) (payload : Payload)
    (elapsed : Duration) :
    ∀ step ∈ writeThenWait place key payload elapsed, step.LetsRun place := by
  intro step hstep
  rcases List.mem_pair.1 hstep with rfl | rfl
  · exact Or.inl fun _ => trivial
  · exact Or.inr (Or.inl ⟨elapsed, rfl⟩)

theorem clock_run_writeThenWait (hqueued : session.clock.queued = []) (place : Nat) (key : String)
    (payload : Payload) (elapsed : Duration) :
    (session.run (writeThenWait place key payload elapsed)).clock =
      session.clock.advance elapsed := by
  let write : Command Payload := .serve (.put key payload (.ofSeconds 0))
  have hwritten : (session.ask place write).2.1.clock = session.clock :=
    clock_ask hqueued place write
  have hpassed : ((session.ask place write).2.1.pass elapsed).clock =
      session.clock.advance elapsed := congrArg (Clock.advance · elapsed) hwritten
  have hwoken : ((session.ask place write).2.1.pass elapsed).wake.1.clock =
      ((session.ask place write).2.1.pass elapsed).clock :=
    clock_wake (by rw [hpassed]; exact hqueued)
  exact hwoken.trans hpassed

theorem cache?_ask_put {cache : Cache Payload} (h : session.cache? place = some cache)
    (key : String) (payload : Payload) (ttl : Duration) :
    (session.ask place (.serve (.put key payload ttl))).2.1.cache? place =
      some { cache with store := (cache.store.put key payload ttl session.clock).1 } :=
  cache?_ask_self h _

theorem store_advance_of_late {cache : Cache Payload} {janitor : Janitor}
    (h : session.cache? place = some cache) (hsole : cache.Sole janitor)
    (hphase : janitor.phase = .starting) (hqueued : session.clock.queued = [])
    {elapsed : Duration}
    (hlate : janitor.schedule.due + Schedule.lateness < session.uptime + elapsed.toNanos) :
    ∃ woken, (session.advance elapsed).1.cache? place = some woken ∧
      woken.store = cache.store := by
  have hpassed : (session.pass elapsed).cache? place = some cache := h
  have hqueued' : (session.pass elapsed).clock.queued = [] := hqueued
  have hdue : janitor.schedule.DueAt (session.pass elapsed).uptime := by
    apply Schedule.dueAt_of_le
    refine le_trans ?_ (Nat.le_of_lt hlate)
    exact Nat.add_le_add_left (by decide) _
  obtain ⟨turn, lingers, hwoken⟩ := cache?_wake hqueued' hpassed hsole
  have hsweeps := Janitor.sweeps_wake_of_late hphase hdue hlate turn lingers
  have hjanitor : cache.janitorAt? .resident = some janitor := hsole.1
  rw [Cache.wake_of_janitor hjanitor, hsweeps] at hwoken
  exact ⟨_, hwoken, rfl⟩

/-- What expires as it is written stays, if the next advance makes the first beat late. -/
theorem stored_writeThenWait (hqueued : session.clock.queued = []) (interval : Duration)
    (hmilli : session.uptime % nanosPerMilli ≠ 0) (key : String) (payload : Payload)
    {elapsed : Duration} (hlate : Schedule.lateness < elapsed.toNanos) :
    ∃ cache, ((session.withManaged interval).run
        (writeThenWait session.caches.length key payload elapsed)).cache?
          session.caches.length = some cache ∧
      cache.store.table.get? key =
        some { payload, expiresAt := session.clock.expiry (.ofSeconds 0) 0 } := by
  let create : Cache Payload := .create session.timer interval session.uptime session.turn
  let stored := (create.store.put key payload (.ofSeconds 0) session.clock).1
  let written := ((session.withManaged interval).ask session.caches.length
    (.serve (.put key payload (.ofSeconds 0)))).2.1
  have hstart := Janitor.start_of_mod_ne_zero session.timer interval hmilli session.turn
  have hwritten : written.cache? session.caches.length = some { create with store := stored } :=
    cache?_ask_put (cache?_withManaged session interval) key payload _
  have hbefore : (session.withManaged interval).clock.queued = [] := hqueued
  have hafter : written.clock.queued = [] := by
    have hclock : written.clock = (session.withManaged interval).clock := clock_ask hbefore _ _
    rw [hclock, hbefore]
  have hbeat : (Janitor.start session.timer interval session.uptime session.turn).schedule.due +
      Schedule.lateness < written.uptime + elapsed.toNanos := by
    have huptime : written.uptime = session.uptime := uptime_ask _ _ _
    rw [hstart.2, huptime]
    exact Nat.add_lt_add_left hlate session.uptime
  obtain ⟨woken, hwoken, hstore⟩ := store_advance_of_late hwritten ⟨rfl, rfl⟩ hstart.1 hafter hbeat
  refine ⟨woken, hwoken, ?_⟩
  rw [hstore]
  simp only [stored, Store.put_eq, Store.insert, Table.get?_insert_self]

theorem not_staleBelow_writeThenWait (hqueued : session.clock.queued = [])
    (hlast : session.clock.steady ≤ Instant.last) (interval : Duration)
    (hmilli : session.uptime % nanosPerMilli ≠ 0) (key : String) (payload : Payload)
    {elapsed : Duration} (hlate : Schedule.lateness < elapsed.toNanos) {bound : Nat}
    (hbound : bound ≤ elapsed.toNanos) :
    ¬((session.withManaged interval).run
      (writeThenWait session.caches.length key payload elapsed)).StaleBelow
        session.caches.length bound := by
  intro hstale
  obtain ⟨cache, hcache, hfresh⟩ := hstale
  obtain ⟨held, hheld, hentry⟩ := stored_writeThenWait hqueued interval hmilli key payload hlate
  obtain rfl : held = cache := Option.some.inj (hheld.symm.trans hcache)
  have hlt := hfresh key _ hentry
  have hbefore : (session.withManaged interval).clock.queued = [] := hqueued
  have hsteady : (session.clock.advance elapsed).steady.toNanos =
      session.clock.steady.toNanos + elapsed.toNanos := Instant.toNanos_add _ _
  have hend : ((session.withManaged interval).run
      (writeThenWait session.caches.length key payload elapsed)).clock =
        session.clock.advance elapsed := clock_run_writeThenWait hbefore _ key payload elapsed
  rw [hend, hsteady, Clock.toNanos_expiry_of_zero hqueued hlast rfl] at hlt
  omega

end Session

/-- **Bounded staleness.** A managed cache that starts with a millisecond shows, after any steps
that let its janitor run, no entry that expired a sweep interval and a millisecond ago. One that
starts within a millisecond may show one after an advance that made its first beat late, until that
time has passed once more, and never else; every such advance that is long enough leaves one. -/
theorem staleness_of_managed_cache (session : Session) (hqueued : session.clock.queued = [])
    (interval : Duration) :
    let created := (session.add (.managed interval true)).2.1
    let place := session.caches.length
    let bound := (Janitor.effectiveInterval interval).toNanos + nanosPerMilli
    (session.uptime % nanosPerMilli = 0 → ∀ steps : List Step,
      (∀ step ∈ steps, step.LetsRun place) →
      (created.run steps).clock.steady ≤ Instant.last →
      (created.run steps).StaleBelow place bound) ∧
    (∀ steps : List Step, (∀ step ∈ steps, step.LetsRun place) →
      (created.run steps).clock.steady ≤ Instant.last →
      (created.run steps).StaleBelow place bound ∨
        ∃ before elapsed after, steps = before ++ .advance elapsed :: after ∧
          (created.run before).FirstBeatLate place session.uptime elapsed ∧
          (created.run steps).uptime < (created.run before).uptime + elapsed.toNanos + bound) ∧
    (session.uptime % nanosPerMilli ≠ 0 → session.clock.steady ≤ Instant.last →
      ∀ (key : String) (payload : Payload) (elapsed : Duration),
        Schedule.lateness < elapsed.toNanos → bound ≤ elapsed.toNanos →
        ¬(created.run [.command place (.serve (.put key payload (.ofSeconds 0))),
          .advance elapsed]).StaleBelow place bound) := by
  intro created place bound
  refine ⟨fun hmilli steps hsteps hlast => ?_, fun steps hsteps hlast => ?_, ?_⟩
  · exact ((Session.sweeps_withManaged hqueued interval hmilli).run hsteps hlast).staleBelow
  · by_cases hmilli : session.uptime % nanosPerMilli = 0
    · have hsweeps := (Session.sweeps_withManaged hqueued interval hmilli).run hsteps hlast
      exact Or.inl hsweeps.staleBelow
    · have hperiod := Janitor.period_le_effectiveInterval session.timer interval
      rcases (Session.awaits_withManaged hqueued interval hmilli).run hperiod hsteps hlast with
        hawaits | hsweeps | ⟨before, elapsed, after, heq, hlate, hlags⟩
      · exact Or.inl (hawaits.staleBelow _)
      · exact Or.inl hsweeps.staleBelow
      · exact Or.inr ⟨before, elapsed, after, heq, hlate, hlags.uptime_lt⟩
  · intro hmilli hlast key payload elapsed hlate hbound
    exact Session.not_staleBelow_writeThenWait hqueued hlast interval hmilli key payload hlate
      hbound

/-- Created as the session begins, swept every 10 ms: after a jump of 25 ms nothing is stale. -/
theorem staleBelow_of_cache_from_the_beginning :
    let session : Session := { clock := { steady := { seconds := 0 } } }
    let interval : Duration := { seconds := 0, nanos := 10000000 }
    let steps := Session.writeThenWait 0 "x" (.text "v") { seconds := 0, nanos := 25000000 }
    session.clock.queued = [] ∧ session.uptime % nanosPerMilli = 0 ∧
      (∀ step ∈ steps, step.LetsRun 0) ∧
      ((session.withManaged interval).run steps).clock.steady ≤ Instant.last ∧
      ((session.withManaged interval).run steps).StaleBelow 0
        ((Janitor.effectiveInterval interval).toNanos + nanosPerMilli) := by
  intro session interval steps
  have hsteps : ∀ step ∈ steps, step.LetsRun 0 := Session.letsRun_writeThenWait 0 _ _ _
  have hqueued : (session.withManaged interval).clock.queued = [] := rfl
  have hlast : ((session.withManaged interval).run steps).clock.steady ≤ Instant.last := by
    rw [Session.clock_run_writeThenWait hqueued]
    decide
  refine ⟨rfl, rfl, hsteps, hlast, ?_⟩
  exact (staleness_of_managed_cache session rfl interval).1 rfl steps hsteps hlast

/-- Created a nanosecond later, the same cache still holds an entry that expired 25 ms ago. -/
theorem not_staleBelow_of_cache_a_nanosecond_later :
    let session : Session := { clock := { steady := { seconds := 0 } }, uptime := 1 }
    let interval : Duration := { seconds := 0, nanos := 10000000 }
    let steps := Session.writeThenWait 0 "x" (.text "v") { seconds := 0, nanos := 25000000 }
    session.clock.queued = [] ∧ (∀ step ∈ steps, step.LetsRun 0) ∧
      ((session.withManaged interval).run steps).clock.steady ≤ Instant.last ∧
      ¬((session.withManaged interval).run steps).StaleBelow 0
        ((Janitor.effectiveInterval interval).toNanos + nanosPerMilli) := by
  intro session interval steps
  have hsteps : ∀ step ∈ steps, step.LetsRun 0 := Session.letsRun_writeThenWait 0 _ _ _
  have hqueued : (session.withManaged interval).clock.queued = [] := rfl
  have hlast : ((session.withManaged interval).run steps).clock.steady ≤ Instant.last := by
    rw [Session.clock_run_writeThenWait hqueued]
    decide
  refine ⟨rfl, hsteps, hlast, ?_⟩
  exact Session.not_staleBelow_writeThenWait rfl (by decide) interval (by decide) "x" (.text "v")
    (by decide) (by decide)

end ExpiringCache
