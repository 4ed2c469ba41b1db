import ExpiringCache.Proofs.Session.Tending
/-!
# Steps that let a janitor run

`Step.LetsRun` are the steps in which time only passes for both clocks at once and nobody stops the
janitor at a place. Each of them takes one of the three situations of the place to one of them.
-/

namespace ExpiringCache

/-- No time passes, and the cache at the place keeps its janitor. -/
def Step.Still (place : Nat) : Step → Prop
  | .writeFile _ _ | .makeDirectory _ | .showFile _ => True
  | .command other asked => other = place → asked.KeepsJanitor
  | .setClock _ | .setReadings _ | .advance _ | .elapse _ | .shutDownJanitor _ => False

/-- Time passes for both clocks alike, if at all, and the cache at the place keeps its janitor. -/
def Step.LetsRun (place : Nat) (step : Step) : Prop :=
  step.Still place ∨ (∃ elapsed, step = .advance elapsed) ∨ ∃ millis, step = .elapse millis

/-- No command brings a cache back that was discarded, or hides one that it does not discard. -/
theorem Cache.discarded_of_run {ν : Type} [SnapshotText ν] {cache later : Cache ν}
    {now turn : Nat} {clock : Clock} {disk : Disk} {command : Command ν}
    (h : (cache.run now turn clock disk command).cache? = some later) :
    later.discarded = cache.discarded := by
  cases command with
  | save path policy =>
      simp only [run] at h
      split at h <;> exact Option.some.inj h ▸ rfl
  | discard => exact (Option.some_ne_none later h.symm).elim
  | startJanitor interval onRuntime => cases onRuntime <;> exact Option.some.inj h ▸ rfl
  | _ => exact Option.some.inj h ▸ rfl

namespace Session

variable {session : Session} {place : Nat} {cache : Cache Payload} {phase : Phase}
  {schedule : Schedule} {since ahead : Int}

/-! ### Commands -/

theorem uptime_ask (session : Session) (place : Nat) (command : Command Payload) :
    (session.ask place command).2.1.uptime = session.uptime := by
  unfold ask
  split <;> rfl

theorem clock_ask (hqueued : session.clock.queued = []) (place : Nat)
    (command : Command Payload) : (session.ask place command).2.1.clock = session.clock := by
  unfold ask
  split
  · rfl
  · exact Cache.run_clock hqueued _ _ _ _ _

theorem ask_of_none (h : session.cache? place = none) (command : Command Payload) :
    session.ask place command = (.noSuchCache, session, []) := by
  rw [ask, h]

theorem ask_of_cache? (h : session.cache? place = some cache) (command : Command Payload) :
    let outcome := cache.run session.uptime session.turn session.clock session.disk command
    session.ask place command =
      (.reply outcome.reply,
        { session with
          clock := outcome.clock
          turn := session.turn + 1
          disk := outcome.disk
          caches := session.caches.set place (some (outcome.cache?.getD cache.discard)) },
        outcome.log) := by
  rw [ask, h]

theorem kept?_ask_self (h : session.cache? place = some cache) (command : Command Payload) :
    (session.ask place command).2.1.kept? place =
      some ((cache.run session.uptime session.turn session.clock session.disk command).cache?.getD
        cache.discard) := by
  rw [ask_of_cache? h]
  exact kept?_set_self (kept?_of_cache? h) rfl

theorem kept?_ask_of_ne {other : Nat} (hne : other ≠ place) (command : Command Payload) :
    (session.ask other command).2.1.kept? place = session.kept? place := by
  cases hcache : session.cache? other with
  | none => rw [ask_of_none hcache]
  | some cache =>
      rw [ask_of_cache? hcache]
      exact kept?_set_of_ne hne rfl

theorem forall_kept?_ask {property : Cache Payload → Prop} {command : Command Payload}
    (h : ∀ place cache, session.kept? place = some cache → property cache)
    (hrun : ∀ cache, property cache → property
      ((cache.run session.uptime session.turn session.clock session.disk command).cache?.getD
        cache.discard)) (place other : Nat) (later : Cache Payload)
    (hlater : (session.ask place command).2.1.kept? other = some later) : property later := by
  cases hcache : session.cache? place with
  | none =>
      rw [ask_of_none hcache] at hlater
      exact h other later hlater
  | some cache =>
      by_cases hother : place = other
      · subst hother
        rw [kept?_ask_self hcache] at hlater
        exact Option.some.inj hlater ▸ hrun cache (h place cache (kept?_of_cache? hcache))
      · rw [kept?_ask_of_ne hother] at hlater
        exact h other later hlater

theorem cache?_ask_self (h : session.cache? place = some cache) (command : Command Payload) :
    (session.ask place command).2.1.cache? place =
      (cache.run session.uptime session.turn session.clock session.disk command).cache? := by
  have hthere := (cache?_eq_some_iff.1 h).2
  rw [cache?, kept?_ask_self h]
  cases hlater : (cache.run session.uptime session.turn session.clock session.disk
      command).cache? with
  | none => rfl
  | some later =>
      refine Option.filter_eq_some_iff.2 ⟨rfl, ?_⟩
      rw [Cache.discarded_of_run hlater, hthere]
      rfl

theorem cache?_ask_of_ne {other : Nat} (hne : other ≠ place) (command : Command Payload) :
    (session.ask other command).2.1.cache? place = session.cache? place := by
  rw [cache?, kept?_ask_of_ne hne, cache?]

theorem Tends.ask (h : session.Tends place phase schedule since)
    (hqueued : session.clock.queued = []) (hlast : session.clock.steady ≤ Instant.last)
    (hsince : since ≤ session.clock.steady.toNanos) {other : Nat} {command : Command Payload}
    (hkeeps : other = place → command.KeepsJanitor) :
    (session.ask other command).2.1.Tends place phase schedule since := by
  obtain ⟨cache, janitor, hcache, hsole, hphase, hschedule, hentries⟩ := h
  by_cases hother : other = place
  · subst hother
    obtain ⟨store, hrun, hstore⟩ := Cache.run_of_keepsJanitor hqueued hlast hsince hentries
      (hkeeps rfl) session.uptime session.turn session.disk
    refine ⟨{ cache with store }, janitor, ?_, hsole, hphase, hschedule, hstore⟩
    rw [cache?_ask_self hcache, hrun]
  · refine ⟨cache, janitor, ?_, hsole, hphase, hschedule, hentries⟩
    rw [cache?_ask_of_ne hother, hcache]

/-! ### Still steps -/

def next (session : Session) (step : Step) : Session := (session.take step).2.1

theorem uptime_next_of_still {step : Step} (hstill : step.Still place) :
    (session.next step).uptime = session.uptime := by
  cases step with
  | command other command => exact uptime_ask session other command
  | writeFile path content => rfl
  | makeDirectory path => rfl
  | showFile path => rfl
  | _ => exact hstill.elim

theorem clock_next_of_still {step : Step} (hstill : step.Still place)
    (hqueued : session.clock.queued = []) : (session.next step).clock = session.clock := by
  cases step with
  | command other command => exact clock_ask hqueued other command
  | writeFile path content => rfl
  | makeDirectory path => rfl
  | showFile path => rfl
  | _ => exact hstill.elim

theorem KeepsTime.next_of_still (h : session.KeepsTime ahead) {step : Step}
    (hstill : step.Still place) : (session.next step).KeepsTime ahead := by
  have hclock := clock_next_of_still hstill h.queued_eq
  refine ⟨by rw [hclock, h.queued_eq], ?_⟩
  rw [hclock, uptime_next_of_still hstill, h.steady_eq]

/-- A still step stores nothing that expires before the wall clock's time. -/
theorem Tends.next_of_still (h : session.Tends place phase schedule since)
    (hkeeps : session.KeepsTime ahead) (hlast : session.clock.steady ≤ Instant.last)
    (hsince : since ≤ ahead + session.uptime) {step : Step} (hstill : step.Still place) :
    (session.next step).Tends place phase schedule since := by
  cases step with
  | command other command =>
      rw [← hkeeps.steady_eq] at hsince
      exact h.ask hkeeps.queued_eq hlast hsince hstill
  | writeFile path content => exact h
  | makeDirectory path => exact h
  | showFile path => exact h
  | _ => exact hstill.elim

/-! ### Milliseconds one by one -/

def oneMilli : Duration := .ofMillis 1

theorem elapse_succ (session : Session) (millis : Nat) :
    (session.elapse (millis + 1)).1 = ((session.advance oneMilli).1.elapse millis).1 := rfl

theorem KeepsTime.elapse (h : session.KeepsTime ahead) (millis : Nat) :
    (session.elapse millis).1.KeepsTime ahead := by
  induction millis generalizing session with
  | zero => exact h
  | succ millis ih => exact ih (h.pass oneMilli).wake

theorem uptime_le_elapse (session : Session) (millis : Nat) :
    session.uptime ≤ (session.elapse millis).1.uptime := by
  induction millis generalizing session with
  | zero => exact le_rfl
  | succ millis ih =>
      have hfirst := uptime_advance session oneMilli
      have hrest := ih (session.advance oneMilli).1
      rw [elapse_succ]
      omega

variable {period start last : Nat}

theorem Sweeps.elapse (h : session.Sweeps place period ahead) (millis : Nat) :
    (session.elapse millis).1.Sweeps place period ahead := by
  induction millis generalizing session with
  | zero => exact h
  | succ millis ih => exact ih (h.advance oneMilli)

theorem Lags.elapse (h : session.Lags place period ahead start last) (millis : Nat) :
    (session.elapse millis).1.Lags place period ahead start last ∨
      (session.elapse millis).1.Sweeps place period ahead := by
  induction millis generalizing session with
  | zero => exact Or.inl h
  | succ millis ih =>
      rcases h.advance oneMilli with hlags | hsweeps
      · exact ih hlags
      · exact Or.inr (hsweeps.elapse millis)

/-- A first beat that millisecond after millisecond leads up to is on time. -/
theorem Awaits.elapse (h : session.Awaits place schedule ahead)
    (hperiod : schedule.period ≤ period) (millis : Nat) :
    (session.elapse millis).1.Awaits place schedule ahead ∨
      (session.elapse millis).1.Sweeps place period ahead := by
  induction millis generalizing session with
  | zero => exact Or.inl h
  | succ millis ih =>
      rcases h.advance hperiod oneMilli with hawaits | hsweeps | ⟨hlate, -⟩
      · exact ih hawaits
      · exact Or.inr (hsweeps.elapse millis)
      · -- A beat that is not due is under a millisecond late, and the next millisecond adds one.
        have hbefore := Schedule.lt_of_not_dueAt h.not_due
        have hmilli : oneMilli.toNanos = nanosPerMilli := rfl
        rw [uptime_advance, hmilli] at hlate
        simp only [Schedule.lateness, nanosPerMilli] at hlate hbefore
        omega

/-! ### Steps -/

theorem KeepsTime.next (h : session.KeepsTime ahead) {step : Step} (hstep : step.LetsRun place) :
    (session.next step).KeepsTime ahead := by
  rcases hstep with hstill | ⟨elapsed, rfl⟩ | ⟨millis, rfl⟩
  · exact h.next_of_still hstill
  · exact (h.pass elapsed).wake
  · exact h.elapse millis

theorem uptime_le_next {step : Step} (hstep : step.LetsRun place) :
    session.uptime ≤ (session.next step).uptime := by
  rcases hstep with hstill | ⟨elapsed, rfl⟩ | ⟨millis, rfl⟩
  · exact (uptime_next_of_still hstill).ge
  · exact (Nat.le_add_right _ _).trans_eq (uptime_advance session elapsed).symm
  · exact uptime_le_elapse session millis

theorem Sweeps.next_of_still (h : session.Sweeps place period ahead)
    (hlast : session.clock.steady ≤ Instant.last) {step : Step} (hstill : step.Still place) :
    (session.next step).Sweeps place period ahead := by
  obtain ⟨hkeeps, schedule, htends, hperiod, hle, hnot⟩ := h
  have huptime : (session.next step).uptime = session.uptime := uptime_next_of_still hstill
  refine ⟨hkeeps.next_of_still hstill, schedule, ?_, hperiod, ?_, ?_⟩
  · exact htends.next_of_still hkeeps hlast (by omega) hstill
  · rwa [huptime]
  · rwa [huptime]

theorem Sweeps.next (h : session.Sweeps place period ahead)
    (hlast : session.clock.steady ≤ Instant.last) {step : Step} (hstep : step.LetsRun place) :
    (session.next step).Sweeps place period ahead := by
  rcases hstep with hstill | ⟨elapsed, rfl⟩ | ⟨millis, rfl⟩
  · exact h.next_of_still hlast hstill
  · exact h.advance elapsed
  · exact h.elapse millis

theorem Lags.next_of_still (h : session.Lags place period ahead start last)
    (hlast : session.clock.steady ≤ Instant.last) {step : Step} (hstill : step.Still place) :
    (session.next step).Lags place period ahead start last := by
  obtain ⟨hkeeps, ⟨schedule, htends, hperiod, hle, hnot⟩, hstart, hbefore⟩ := h
  have huptime : (session.next step).uptime = session.uptime := uptime_next_of_still hstill
  refine ⟨hkeeps.next_of_still hstill, ⟨schedule, ?_, hperiod, hle, ?_⟩, hstart, ?_⟩
  · exact htends.next_of_still hkeeps hlast (by omega) hstill
  · rwa [huptime]
  · rwa [huptime]

theorem Lags.next (h : session.Lags place period ahead start last)
    (hlast : session.clock.steady ≤ Instant.last) {step : Step} (hstep : step.LetsRun place) :
    (session.next step).Lags place period ahead start last ∨
      (session.next step).Sweeps place period ahead := by
  rcases hstep with hstill | ⟨elapsed, rfl⟩ | ⟨millis, rfl⟩
  · exact Or.inl (h.next_of_still hlast hstill)
  · exact h.advance elapsed
  · exact h.elapse millis

theorem Awaits.next_of_still (h : session.Awaits place schedule ahead)
    (hlast : session.clock.steady ≤ Instant.last) {step : Step} (hstill : step.Still place) :
    (session.next step).Awaits place schedule ahead := by
  have huptime : (session.next step).uptime = session.uptime := uptime_next_of_still hstill
  have hle := h.due_le
  refine ⟨h.keepsTime.next_of_still hstill, ?_, ?_, ?_⟩
  · exact h.tends.next_of_still h.keepsTime hlast (by omega) hstill
  · rwa [huptime]
  · rw [huptime]
    exact h.not_due

/-- Only an advance can make the first beat late. -/
theorem Awaits.next (h : session.Awaits place schedule ahead) (hperiod : schedule.period ≤ period)
    (hlast : session.clock.steady ≤ Instant.last) {step : Step} (hstep : step.LetsRun place) :
    (session.next step).Awaits place schedule ahead ∨
      (session.next step).Sweeps place period ahead ∨
      ∃ elapsed, step = .advance elapsed ∧
        schedule.due + Schedule.lateness < (session.next step).uptime ∧
        (session.next step).Lags place period ahead schedule.due (session.next step).uptime := by
  rcases hstep with hstill | ⟨elapsed, rfl⟩ | ⟨millis, rfl⟩
  · exact Or.inl (h.next_of_still hlast hstill)
  · rcases h.advance hperiod elapsed with hawaits | hsweeps | hlags
    · exact Or.inl hawaits
    · exact Or.inr (Or.inl hsweeps)
    · exact Or.inr (Or.inr ⟨elapsed, rfl, hlags⟩)
  · rcases h.elapse hperiod millis with hawaits | hsweeps
    · exact Or.inl hawaits
    · exact Or.inr (Or.inl hsweeps)

end Session

end ExpiringCache
