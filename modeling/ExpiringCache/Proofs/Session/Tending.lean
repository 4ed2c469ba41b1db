import ExpiringCache.Proofs.Session.Wake
/-!
# A place that a janitor tends

The wall clock and the running clock go on together, so the wall clock is always ahead of the uptime
by the same amount, and every bound on the expiry of entries can be put in terms of the schedule.
Three situations follow one another: the janitor awaits its first beat; its first beat came so late
that no sweep has followed it; it sweeps on time.
-/

namespace ExpiringCache

namespace Session

variable {session : Session} {place : Nat} {phase : Phase} {schedule : Schedule} {since ahead : Int}

/-- The cache at the place has one janitor, in the phase and with the schedule, and none of its
entries expires before the given time. -/
def Tends (session : Session) (place : Nat) (phase : Phase) (schedule : Schedule) (since : Int) :
    Prop :=
  ∃ cache janitor, session.cache? place = some cache ∧ cache.Sole janitor ∧
    janitor.phase = phase ∧ janitor.schedule = schedule ∧ cache.store.ExpiresFrom since

/-- A wake takes a tended place from one phase and schedule to those its janitor has afterwards; if
it swept, what was expired is gone. -/
theorem Tends.wake (h : session.Tends place phase schedule since)
    (hqueued : session.clock.queued = []) {phase' : Phase} {schedule' : Schedule} {since' : Int}
    (hwake : ∀ (janitor : Janitor) (turn lingers : Nat), janitor.phase = phase →
      janitor.schedule = schedule →
      ∃ sweeps woken, janitor.wake session.uptime turn lingers = (sweeps, woken) ∧
        woken.phase = phase' ∧ woken.schedule = schedule' ∧
        (since' ≤ since ∨ (0 < sweeps ∧ since' ≤ session.clock.steady.toNanos))) :
    session.wake.1.Tends place phase' schedule' since' := by
  obtain ⟨cache, janitor, hcache, hsole, hphase, hschedule, hentries⟩ := h
  have hjanitor : cache.janitorAt? .resident = some janitor := hsole.1
  obtain ⟨turn, lingers, hwoken⟩ := cache?_wake hqueued hcache hsole
  obtain ⟨sweeps, woken, heq, hphase', hschedule', hsince⟩ :=
    hwake janitor turn lingers hphase hschedule
  rw [Cache.wake_of_janitor hjanitor, heq] at hwoken
  refine ⟨_, woken, hwoken, ⟨rfl, hsole.2⟩, hphase', hschedule', ?_⟩
  rcases hsince with hle | ⟨hpos, hle⟩
  · exact (hentries.sweep hqueued sweeps).mono hle
  · exact (Cache.expiresFrom_sweep hqueued cache.store hpos).mono hle

theorem Tends.wake_of_not_dueAt (h : session.Tends place phase schedule since)
    (hqueued : session.clock.queued = []) (hdue : ¬schedule.DueAt session.uptime) :
    session.wake.1.Tends place phase schedule since := by
  apply h.wake hqueued
  intro janitor turn lingers hphase hschedule
  have hrests : ¬janitor.DueAt session.uptime := fun hdueAt => hdue (hschedule ▸ hdueAt.2)
  exact ⟨0, janitor, Janitor.wake_of_not_dueAt hrests turn lingers, hphase, hschedule,
    Or.inl le_rfl⟩

theorem Tends.wake_of_sweeping (h : session.Tends place .sweeping schedule since)
    (hqueued : session.clock.queued = []) (hdue : schedule.DueAt session.uptime) :
    session.wake.1.Tends place .sweeping (schedule.catchUp session.uptime).2
      session.clock.steady.toNanos := by
  apply h.wake hqueued
  intro janitor turn lingers hphase hschedule
  subst hschedule
  have hpos := Schedule.beats_pos hdue
  exact ⟨_, _, Janitor.wake_of_sweeping hphase hdue turn lingers, hphase, rfl,
    Or.inr ⟨hpos, le_rfl⟩⟩

/-- The first beat sweeps nothing, every further one does. -/
theorem Tends.wake_of_starting (h : session.Tends place .starting schedule since)
    (hqueued : session.clock.queued = []) (hdue : schedule.DueAt session.uptime) {since' : Int}
    (hsince : since' ≤ since ∨
      (1 < (schedule.catchUp session.uptime).1 ∧ since' ≤ session.clock.steady.toNanos)) :
    session.wake.1.Tends place .sweeping (schedule.catchUp session.uptime).2 since' := by
  apply h.wake hqueued
  intro janitor turn lingers hphase hschedule
  subst hschedule
  refine ⟨_, _, Janitor.wake_of_starting hphase hdue turn lingers, rfl, rfl, ?_⟩
  exact hsince.imp_right fun hbeats => ⟨Nat.sub_pos_of_lt hbeats.1, hbeats.2⟩

theorem Tends.mono (h : session.Tends place phase schedule since) {earlier : Int}
    (hle : earlier ≤ since) : session.Tends place phase schedule earlier := by
  obtain ⟨cache, janitor, hcache, hsole, hphase, hschedule, hentries⟩ := h
  exact ⟨cache, janitor, hcache, hsole, hphase, hschedule, hentries.mono hle⟩

/-! ### Both clocks together -/

/-- No readings are queued, and the wall clock is ahead of the uptime by the given nanoseconds. -/
structure KeepsTime (session : Session) (ahead : Int) : Prop where
  queued_eq : session.clock.queued = []
  steady_eq : session.clock.steady.toNanos = ahead + session.uptime

def pass (session : Session) (elapsed : Duration) : Session :=
  { session with
    clock := session.clock.advance elapsed
    uptime := session.uptime + elapsed.toNanos }

theorem advance_eq (session : Session) (elapsed : Duration) :
    session.advance elapsed = (session.pass elapsed).wake := rfl

theorem uptime_advance (session : Session) (elapsed : Duration) :
    (session.advance elapsed).1.uptime = session.uptime + elapsed.toNanos :=
  uptime_wake (session.pass elapsed)

theorem KeepsTime.pass (h : session.KeepsTime ahead) (elapsed : Duration) :
    (session.pass elapsed).KeepsTime ahead := by
  have hsteady : (session.pass elapsed).clock.steady.toNanos =
      session.clock.steady.toNanos + elapsed.toNanos := Instant.toNanos_add _ _
  have huptime : (session.pass elapsed).uptime = session.uptime + elapsed.toNanos := rfl
  refine ⟨h.queued_eq, ?_⟩
  rw [hsteady, h.steady_eq, huptime]
  omega

theorem KeepsTime.wake (h : session.KeepsTime ahead) : session.wake.1.KeepsTime ahead := by
  have hclock := clock_wake h.queued_eq
  refine ⟨by rw [hclock, h.queued_eq], ?_⟩
  rw [hclock, uptime_wake, h.steady_eq]

/-! ### The three situations -/

/-- The first beat is ahead, and no entry is older than the janitor. -/
structure Awaits (session : Session) (place : Nat) (schedule : Schedule) (ahead : Int) : Prop where
  keepsTime : session.KeepsTime ahead
  tends : session.Tends place .starting schedule (ahead + schedule.due)
  due_le : schedule.due ≤ session.uptime
  not_due : ¬schedule.DueAt session.uptime

/-- A sweep took place a period before the next due time, or no entry is older than that. -/
structure Sweeps (session : Session) (place period : Nat) (ahead : Int) : Prop where
  keepsTime : session.KeepsTime ahead
  tends : ∃ schedule : Schedule,
    session.Tends place .sweeping schedule (ahead + schedule.due - period) ∧
      schedule.period ≤ period ∧ schedule.due ≤ session.uptime + period ∧
      ¬schedule.DueAt session.uptime

/-- The first beat came late, at `last`; no sweep has followed it yet. -/
structure Lags (session : Session) (place period : Nat) (ahead : Int) (start last : Nat) :
    Prop where
  keepsTime : session.KeepsTime ahead
  tends : ∃ schedule : Schedule, session.Tends place .sweeping schedule (ahead + start) ∧
    schedule.period ≤ period ∧ schedule.due ≤ last + period ∧ ¬schedule.DueAt session.uptime
  start_le : start ≤ last
  last_le : last ≤ session.uptime

variable {period start last : Nat}

theorem KeepsTime.sweeps_wake_of_dueAt (hkeeps : session.KeepsTime ahead)
    (htends : session.Tends place .sweeping schedule since) (hperiod : schedule.period ≤ period)
    (hdue : schedule.DueAt session.uptime) : session.wake.1.Sweeps place period ahead := by
  have hnext := Schedule.due_catchUp_le_of_dueAt hdue
  have hswept := htends.wake_of_sweeping hkeeps.queued_eq hdue
  have hsteady := hkeeps.steady_eq
  refine ⟨hkeeps.wake, (schedule.catchUp session.uptime).2, hswept.mono ?_, ?_, ?_, ?_⟩
  · omega
  · rwa [Schedule.period_catchUp]
  · rw [uptime_wake]
    omega
  · rw [uptime_wake]
    exact schedule.not_dueAt_catchUp session.uptime

theorem Sweeps.advance (h : session.Sweeps place period ahead) (elapsed : Duration) :
    (session.advance elapsed).1.Sweeps place period ahead := by
  obtain ⟨hkeeps, schedule, htends, hperiod, hle, -⟩ := h
  have hpass := hkeeps.pass elapsed
  have hpassed : (session.pass elapsed).Tends place .sweeping schedule
      (ahead + schedule.due - period) := htends
  rw [advance_eq]
  by_cases hdue : schedule.DueAt (session.pass elapsed).uptime
  · exact hpass.sweeps_wake_of_dueAt hpassed hperiod hdue
  · have hlater : session.uptime ≤ (session.pass elapsed).uptime := Nat.le_add_right _ _
    refine ⟨hpass.wake, schedule, hpassed.wake_of_not_dueAt hpass.queued_eq hdue, hperiod, ?_, ?_⟩
    · rw [uptime_wake]
      omega
    · rwa [uptime_wake]

theorem Lags.advance (h : session.Lags place period ahead start last) (elapsed : Duration) :
    (session.advance elapsed).1.Lags place period ahead start last ∨
      (session.advance elapsed).1.Sweeps place period ahead := by
  obtain ⟨hkeeps, ⟨schedule, htends, hperiod, hle, -⟩, hstart, hlast⟩ := h
  have hpass := hkeeps.pass elapsed
  have hpassed : (session.pass elapsed).Tends place .sweeping schedule (ahead + start) := htends
  rw [advance_eq]
  by_cases hdue : schedule.DueAt (session.pass elapsed).uptime
  · exact Or.inr (hpass.sweeps_wake_of_dueAt hpassed hperiod hdue)
  · have hlater : session.uptime ≤ (session.pass elapsed).uptime := Nat.le_add_right _ _
    refine Or.inl ⟨hpass.wake, ⟨schedule, ?_, hperiod, hle, by rwa [uptime_wake]⟩, hstart, ?_⟩
    · exact hpassed.wake_of_not_dueAt hpass.queued_eq hdue
    · rw [uptime_wake]
      exact hlast.trans hlater

/-- The first beat on time brings the place on time: either it is the only one and the next due
time is a period later, or a sweep comes with it. -/
theorem KeepsTime.sweeps_wake_of_starting (hkeeps : session.KeepsTime ahead)
    (htends : session.Tends place .starting schedule (ahead + schedule.due))
    (hperiod : schedule.period ≤ period) (hdue : schedule.DueAt session.uptime)
    (hontime : session.uptime ≤ schedule.due + Schedule.lateness) :
    session.wake.1.Sweeps place period ahead := by
  have hnext := Schedule.due_catchUp_le_of_dueAt hdue
  have hsteady := hkeeps.steady_eq
  refine ⟨hkeeps.wake, (schedule.catchUp session.uptime).2, ?_, ?_, ?_, ?_⟩
  · -- Without a sweep the next due time is a period after the start, and no entry is older.
    apply htends.wake_of_starting hkeeps.queued_eq hdue
    by_cases hone : (schedule.catchUp session.uptime).1 ≤ 1
    · have hstep := Schedule.catchUp_of_one_beat hdue hone
      have hgrid : (schedule.step session.uptime).due = schedule.due + schedule.period :=
        Schedule.nextDue_of_le hontime
      left
      rw [hstep, hgrid]
      omega
    · right
      exact ⟨Nat.lt_of_not_le hone, by omega⟩
  · rwa [Schedule.period_catchUp]
  · rw [uptime_wake]
    omega
  · rw [uptime_wake]
    exact schedule.not_dueAt_catchUp session.uptime

theorem KeepsTime.lags_wake_of_late (hkeeps : session.KeepsTime ahead)
    (htends : session.Tends place .starting schedule (ahead + schedule.due))
    (hperiod : schedule.period ≤ period) (hdue : schedule.DueAt session.uptime)
    (hlate : schedule.due + Schedule.lateness < session.uptime) :
    session.wake.1.Lags place period ahead schedule.due session.uptime := by
  have hle := Schedule.due_le_of_dueAt hdue
  have hstep := Schedule.catchUp_of_late hdue hlate
  have hnext := Schedule.due_catchUp_le_of_dueAt hdue
  have hnot := schedule.not_dueAt_catchUp session.uptime
  have hwoken := htends.wake_of_starting hkeeps.queued_eq hdue (Or.inl le_rfl)
  refine ⟨hkeeps.wake, ⟨_, hwoken, ?_, ?_, ?_⟩, hle, ?_⟩
  · rwa [Schedule.period_catchUp]
  · omega
  · rwa [uptime_wake]
  · rw [uptime_wake]

theorem Awaits.advance (h : session.Awaits place schedule ahead)
    (hperiod : schedule.period ≤ period) (elapsed : Duration) :
    (session.advance elapsed).1.Awaits place schedule ahead ∨
      (session.advance elapsed).1.Sweeps place period ahead ∨
      (schedule.due + Schedule.lateness < (session.advance elapsed).1.uptime ∧
        (session.advance elapsed).1.Lags place period ahead schedule.due
          (session.advance elapsed).1.uptime) := by
  have hpass := h.keepsTime.pass elapsed
  have hpassed : (session.pass elapsed).Tends place .starting schedule (ahead + schedule.due) :=
    h.tends
  have hlater : session.uptime ≤ (session.pass elapsed).uptime := Nat.le_add_right _ _
  rw [advance_eq, uptime_wake]
  by_cases hdue : schedule.DueAt (session.pass elapsed).uptime
  · right
    by_cases hontime : (session.pass elapsed).uptime ≤ schedule.due + Schedule.lateness
    · left
      exact hpass.sweeps_wake_of_starting hpassed hperiod hdue hontime
    · right
      have hlate := Nat.lt_of_not_le hontime
      exact ⟨hlate, hpass.lags_wake_of_late hpassed hperiod hdue hlate⟩
  · left
    refine ⟨hpass.wake, hpassed.wake_of_not_dueAt hpass.queued_eq hdue, ?_, ?_⟩
    · rw [uptime_wake]
      exact h.due_le.trans hlater
    · rwa [uptime_wake]

end Session

end ExpiringCache
