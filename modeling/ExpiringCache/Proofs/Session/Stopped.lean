import ExpiringCache.Proofs.Cache.Untended
import ExpiringCache.Proofs.Session.Running
import ExpiringCache.Proofs.Session.Settled
/-!
# Janitors that were told to stop

Whoever closes, discards or releases a cache's janitor, starts another one in its place or shuts it
down tells it to stop. From then on it does not run, at any later time. It logs that it stopped at
once, except in the millisecond in which it started: its first beat comes with the next millisecond,
and it leaves no sooner. If that beat comes late, a janitor with a short interval may sweep before
it leaves. That is the last of it.
-/

namespace ExpiringCache

open Log

/-- The step tells the janitor at the place to stop. -/
def Step.Stops (place : Nat) : Step → Prop
  | .command other .close | .command other .discard | .command other .releaseJanitor
  | .command other (.startJanitor _ true) | .shutDownJanitor other => other = place
  | _ => False

theorem Step.Stops.place_eq {place other : Nat} {command : Command Payload}
    (h : (Step.command other command).Stops place) : other = place := by
  cases command with
  | startJanitor interval onRuntime =>
      cases onRuntime with
      | false => exact h.elim
      | true => exact h
  | close => exact h
  | discard => exact h
  | releaseJanitor => exact h
  | _ => exact h.elim

/-! ### The cache at the place -/

namespace Cache

variable {ν : Type} {cache : Cache ν} {uptime : Nat}

/-- No janitor of the cache runs or sweeps if it wakes at the moment. -/
def QuietAt (cache : Cache ν) (now : Nat) : Prop := cache.HasJanitors (·.QuietAt now)

theorem QuietAt.not_running {now : Nat} (h : cache.QuietAt now) : ¬cache.running :=
  not_running_of_janitor fun janitor hjanitor => (h .resident janitor hjanitor).1

theorem QuietAt.wake {now : Nat} (h : cache.QuietAt now) (station : Station)
    (turn lingers : Nat) (clock : Clock) :
    (cache.wake station now turn lingers clock).1.store = cache.store ∧
      (cache.wake station now turn lingers clock).1.QuietAt now := by
  obtain ⟨hstore, hquiet, -, -⟩ :=
    wake_of_no_sweep h (fun _ hquiet => hquiet.wake turn lingers) station clock
  exact ⟨hstore, hquiet⟩

theorem Settled.not_running (h : cache.Settled uptime) (hidle : ¬cache.running) :
    cache.HasJanitors (¬·.running) := by
  intro station janitor hjanitor
  cases station with
  | resident => exact janitor_not_running hidle hjanitor
  | former index => exact h.retired index janitor hjanitor

/-- Whoever was told to stop before its first beat finds no other beat with it a millisecond on. -/
theorem Settled.quietAt_next_milli (h : cache.Settled uptime) (hidle : ¬cache.running) :
    cache.QuietAt (uptime + nanosPerMilli) := by
  intro station janitor hjanitor
  have hnot := h.not_running hidle station janitor hjanitor
  rcases Janitor.phase_of_not_running hnot with hphase | hphase
  · have hahead := (h.janitor station janitor hjanitor).not_dueAt (Or.inr hphase)
    exact Janitor.quietAt_of_leaving hphase (Schedule.beatsBy_next_milli_le_one hahead)
  · exact Janitor.quietAt_of_stopped hphase _

/-- Those of its janitors that have not left yet beat too rarely to sweep before they leave. -/
def LeavesQuietly (cache : Cache ν) : Prop :=
  ∀ station janitor, cache.janitorAt? station = some janitor → janitor.phase = .leaving →
    Schedule.lateness < janitor.schedule.period

theorem Settled.unswept (h : cache.Settled uptime) (hidle : ¬cache.running)
    (hquietly : cache.LeavesQuietly) : cache.Unswept := by
  intro station janitor hjanitor
  have hnot := h.not_running hidle station janitor hjanitor
  rcases Janitor.phase_of_not_running hnot with hphase | hphase
  · exact Or.inr ⟨hphase, hquietly station janitor hjanitor hphase⟩
  · exact Or.inl hphase

theorem not_running_wake (h : ¬cache.running) (station : Station) (now turn lingers : Nat)
    (clock : Clock) : ¬(cache.wake station now turn lingers clock).1.running := by
  refine not_running_of_janitor fun woken hwoken => ?_
  have hthere : (cache.wake station now turn lingers clock).1.janitorAt? .resident =
      some woken := hwoken
  by_cases hstation : station = .resident
  · subst hstation
    cases hjanitor : cache.janitorAt? .resident with
    | none =>
        rw [wake_of_none hjanitor, hjanitor] at hthere
        exact (Option.some_ne_none woken hthere.symm).elim
    | some janitor =>
        rw [janitorAt?_wake_self hjanitor] at hthere
        obtain rfl := Option.some.inj hthere
        exact mt Janitor.running_of_running_wake (janitor_not_running h hjanitor)
  · rw [janitorAt?_wake_of_ne hstation] at hthere
    exact janitor_not_running h hthere

/-- No command but the start of a janitor lets one run. -/
theorem not_running_of_run [SnapshotText ν] {later : Cache ν} {now turn : Nat} {clock : Clock}
    {disk : Disk} {command : Command ν} (h : ¬cache.running)
    (hstart : ∀ interval, command ≠ .startJanitor interval true)
    (hlater : (cache.run now turn clock disk command).cache? = some later) : ¬later.running := by
  refine not_running_of_janitor fun janitor hjanitor hrunning => ?_
  have hin : ((cache.run now turn clock disk command).cache?.getD cache.discard).janitor? =
      some janitor := by rw [hlater, Option.getD_some, hjanitor]
  exact janitor_not_running h (janitor?_of_run hin hrunning hstart) hrunning

end Cache

namespace Session

variable {session : Session} {place : Nat} {cache later : Cache Payload}

theorem cache?_wakeEach_of_quietAt (h : session.cache? place = some cache)
    (hquiet : cache.QuietAt session.uptime) (order : List Post) :
    ∃ later, (session.wakeEach order).1.cache? place = some later ∧
      later.store = cache.store ∧ later.QuietAt session.uptime := by
  induction order generalizing session cache with
  | nil => exact ⟨cache, h, rfl, hquiet⟩
  | cons head rest ih =>
      have huptime := uptime_wakeAt session head
      by_cases hplace : head.place = place
      · subst hplace
        obtain ⟨hstore, hwoken⟩ := hquiet.wake head.station session.turn
          (session.lingers session.turn) session.clock
        obtain ⟨later, hlater, hsame, hrest⟩ :=
          ih (cache?_wakeAt_self h) (by rwa [huptime])
        exact ⟨later, hlater, hsame.trans hstore, by rwa [huptime] at hrest⟩
      · obtain ⟨later, hlater, hsame, hrest⟩ :=
          ih ((cache?_wakeAt_of_ne hplace).trans h) (by rwa [huptime])
        exact ⟨later, hlater, hsame, by rwa [huptime] at hrest⟩

theorem ask_of_stops (h : session.cache? place = some cache) {command : Command Payload}
    (hstops : (Step.command place command).Stops place)
    (hlater : (session.ask place command).2.1.cache? place = some later) :
    later.store = cache.store ∧
      ((∀ interval, command ≠ .startJanitor interval true) → ¬later.running) := by
  rw [cache?_ask_self h] at hlater
  cases command with
  | close =>
      obtain rfl := Option.some.inj hlater
      exact ⟨rfl, fun _ => cache.not_running_stop⟩
  | discard => exact (Option.some_ne_none later hlater.symm).elim
  | releaseJanitor =>
      obtain rfl := Option.some.inj hlater
      exact ⟨rfl, fun _ => Bool.false_ne_true⟩
  | startJanitor interval onRuntime =>
      cases onRuntime with
      | false => exact hstops.elim
      | true => exact ⟨Option.some.inj hlater ▸ rfl, fun hne => absurd rfl (hne interval)⟩
  | _ => exact hstops.elim

theorem cache?_shutDownJanitor (h : session.cache? place = some cache)
    (hsettled : session.Settled) :
    ∃ later, (session.shutDownJanitor place).2.1.cache? place = some later ∧
      later.store = cache.store ∧ ¬later.running := by
  have hreleased : (session.ask place .releaseJanitor).2.1.cache? place = some cache.letGo :=
    cache?_ask_self h .releaseJanitor
  have hidle : ¬cache.letGo.running := Bool.false_ne_true
  unfold shutDownJanitor
  dsimp only
  split
  · let passed : Session := { (session.ask place .releaseJanitor).2.1 with
      uptime := (session.ask place .releaseJanitor).2.1.uptime + nanosPerMilli }
    have hpassed : passed.cache? place = some cache.letGo := hreleased
    have hquiet : cache.letGo.QuietAt passed.uptime :=
      (hsettled.ask place .releaseJanitor place cache.letGo
        (kept?_of_cache? hreleased)).quietAt_next_milli hidle
    obtain ⟨later, hlater, hstore, hrest⟩ :=
      cache?_wakeEach_of_quietAt hpassed hquiet passed.wakeOrder
    exact ⟨later, hlater, hstore, hrest.not_running⟩
  · exact ⟨cache.letGo, hreleased, rfl, hidle⟩

/-- An order to stop leaves the entries and the counters of the cache as they are, and no janitor
runs in it but one that has just started. -/
theorem next_of_stops (h : session.cache? place = some cache) (hsettled : session.Settled)
    {step : Step} (hstops : step.Stops place)
    (hlater : (session.next step).cache? place = some later) :
    later.store = cache.store ∧
      ((∀ interval, step ≠ .command place (.startJanitor interval true)) → ¬later.running) := by
  cases step with
  | command other command =>
      obtain rfl := hstops.place_eq
      obtain ⟨hstore, hidle⟩ := ask_of_stops h hstops hlater
      exact ⟨hstore, fun hne => hidle fun interval heq => hne interval (heq ▸ rfl)⟩
  | shutDownJanitor other =>
      obtain rfl : other = place := hstops
      obtain ⟨found, hfound, hstore, hidle⟩ := cache?_shutDownJanitor h hsettled
      obtain rfl := Option.some.inj (hfound.symm.trans hlater)
      exact ⟨hstore, fun _ => hidle⟩
  | _ => exact hstops.elim

end Session

/-! ### The janitor with a number -/

namespace Roll

variable {roll : Roll} {place number : Nat} {cache : Cache Payload}

theorem Faithful.exists_resident (h : roll.Faithful)
    (hcache : roll.session.cache? place = some cache)
    (hpost : roll.posts[number]? = some ⟨place, .resident⟩) :
    ∃ janitor, cache.janitor? = some janitor ∧ roll.janitor? number = some janitor := by
  obtain ⟨janitor, hjanitor, hnumber⟩ := h.exists_janitor hpost
  rw [Session.janitorAt?_of_cache? hcache] at hjanitor
  exact ⟨janitor, hjanitor, hnumber⟩

theorem janitor?_ask_of_goes (hcache : roll.session.cache? place = some cache)
    (hpost : roll.posts[number]? = some ⟨place, .resident⟩) {command : Command Payload}
    (hgoes : command = .discard ∨ command = .releaseJanitor) :
    (roll.ask place command).1.janitor? number = cache.stop.janitor? := by
  have hmoved : (roll.posts.map (Post.moved place cache.former.length))[number]? =
      some ⟨place, Station.resident.moved cache.former.length⟩ := by
    rw [List.getElem?_map, hpost]
    exact congrArg some (if_pos rfl)
  rw [ask_of_goes hcache hgoes]
  refine (janitor?_of_posts hmoved).trans ?_
  exact (Session.janitorAt?_ask_of_goes hcache hgoes _).trans
    cache.janitorAt?_letGo_moved_resident

theorem Faithful.ask_of_stops (h : roll.Faithful)
    (hcache : roll.session.cache? place = some cache)
    (hpost : roll.posts[number]? = some ⟨place, .resident⟩) {command : Command Payload}
    (hstops : (Step.command place command).Stops place) :
    ∃ janitor, (roll.ask place command).1.janitor? number = some janitor ∧ ¬janitor.running := by
  obtain ⟨janitor, hjanitor, hnumber⟩ := h.exists_resident hcache hpost
  have hstopped : cache.stop.janitor? = some janitor.stop := by
    rw [Cache.stop, hjanitor, Option.map_some]
  have hidle := janitor.not_running_stop
  cases command with
  | close =>
      refine ⟨janitor.stop, ?_, hidle⟩
      have hposted : (roll.ask place .close).1.posts[number]? = some ⟨place, .resident⟩ := by
        have hstays : (Command.close : Command Payload).StaysBy := trivial
        rw [ask_eq_of_staysBy hcache hstays]
        exact hpost
      rw [janitor?_of_posts hposted, (h.ask place .close).session_eq,
        Session.janitorAt?_of_cache? (Session.cache?_ask_self hcache .close)]
      exact hstopped
  | discard =>
      exact ⟨janitor.stop, (janitor?_ask_of_goes hcache hpost (Or.inl rfl)).trans hstopped, hidle⟩
  | releaseJanitor =>
      exact ⟨janitor.stop, (janitor?_ask_of_goes hcache hpost (Or.inr rfl)).trans hstopped, hidle⟩
  | startJanitor interval onRuntime =>
      cases onRuntime with
      | false => exact hstops.elim
      | true =>
          have hlt : number < roll.posts.length := (List.getElem?_eq_some_iff.1 hpost).1
          refine ⟨janitor.stop, ?_, hidle⟩
          rw [h.janitor?_ask_startJanitor hcache interval hlt]
          exact (janitor?_ask_of_goes hcache hpost (Or.inr rfl)).trans hstopped
  | _ => exact hstops.elim

theorem Faithful.shutDownJanitor_stops (h : roll.Faithful) (hsettled : roll.session.Settled)
    (hcache : roll.session.cache? place = some cache)
    (hpost : roll.posts[number]? = some ⟨place, .resident⟩) :
    ∃ janitor, (roll.shutDownJanitor place).1.janitor? number = some janitor ∧
      janitor.phase = .stopped := by
  obtain ⟨janitor, hjanitor, -⟩ := h.exists_resident hcache hpost
  have hstopped : cache.stop.janitor? = some janitor.stop := by
    rw [Cache.stop, hjanitor, Option.map_some]
  have hattends := h.ask place .releaseJanitor
  have hfaithful := hattends.follows.faithful
  have hasked : (roll.ask place .releaseJanitor).1.session.Settled := by
    rw [hattends.session_eq]
    exact hsettled.ask place .releaseJanitor
  have hnumber := (janitor?_ask_of_goes hcache hpost (Or.inr rfl)).trans hstopped
  unfold Roll.shutDownJanitor
  generalize roll.ask place .releaseJanitor = asked at hfaithful hasked hnumber ⊢
  simp only [hcache, Option.any_some, hstopped]
  by_cases hphase : janitor.stop.phase = .stopped
  · rw [if_neg (by simp [hphase])]
    exact ⟨janitor.stop, hnumber, hphase⟩
  · -- Whoever shuts a janitor down waits for it, and its first beat is a millisecond away at most.
    have hleaving := (Janitor.phase_of_not_running janitor.not_running_stop).resolve_right hphase
    obtain ⟨post, -, hin⟩ := janitor?_eq_some_iff.1 hnumber
    have hdue : janitor.stop.DueAt (asked.1.session.uptime + nanosPerMilli) :=
      ⟨hphase, Schedule.dueAt_of_le
        (Nat.add_le_add_right ((hasked.janitor hin).due_le (Or.inr hleaving)) _)⟩
    let passed : Roll := { asked.1 with
      session := { asked.1.session with uptime := asked.1.session.uptime + nanosPerMilli } }
    have hpass : asked.1.Attends (passed, []) (passed.session, []) :=
      hfaithful.attends_of_caches_eq rfl rfl
    have hbefore : passed.janitor? number = some janitor.stop := hnumber
    obtain ⟨turn, lingers, hwoken, -⟩ := hpass.follows.faithful.wake_of_number hbefore
    rw [if_pos (by simp [hphase])]
    refine ⟨_, hwoken, ?_⟩
    change (janitor.stop.wake (asked.1.session.uptime + nanosPerMilli) turn lingers).2.phase = _
    rw [Janitor.wake_of_leaving hleaving hdue]

theorem Faithful.take_of_stops (h : roll.Faithful) (hsettled : roll.session.Settled)
    (hcache : roll.session.cache? place = some cache)
    (hpost : roll.posts[number]? = some ⟨place, .resident⟩) {step : Step}
    (hstops : step.Stops place) :
    ∃ janitor, (roll.take step).1.janitor? number = some janitor ∧ ¬janitor.running ∧
      (step = .shutDownJanitor place → janitor.phase = .stopped) := by
  cases step with
  | command other command =>
      obtain rfl := hstops.place_eq
      obtain ⟨janitor, hnumber, hidle⟩ := h.ask_of_stops hcache hpost hstops
      exact ⟨janitor, hnumber, hidle, fun heq => by cases heq⟩
  | shutDownJanitor other =>
      obtain rfl : other = place := hstops
      obtain ⟨janitor, hnumber, hphase⟩ := h.shutDownJanitor_stops hsettled hcache hpost
      exact ⟨janitor, hnumber, Janitor.not_running_of_stopped hphase, fun _ => hphase⟩
  | _ => exact hstops.elim

end Roll

namespace Session

/-! ### Where no janitor runs -/

/-- The move starts a janitor at the place. -/
def Move.Hires (place : Nat) : Move → Prop
  | .take (.command other (.startJanitor _ true)) => other = place
  | _ => False

/-- The place is taken, and no janitor runs there. -/
structure Idle (place : Nat) (session : Session) : Prop where
  lt_length : place < session.caches.length
  not_running : ∀ cache, session.cache? place = some cache → ¬cache.running

theorem length_caches_wakeAt (session : Session) (post : Post) :
    (session.wakeAt post).1.caches.length = session.caches.length := by
  unfold wakeAt
  split
  · rfl
  · exact List.length_set

theorem length_caches_ask (session : Session) (place : Nat) (command : Command Payload) :
    (session.ask place command).2.1.caches.length = session.caches.length := by
  unfold Session.ask
  split
  · rfl
  · exact List.length_set

theorem invariant_idle (place : Nat) :
    Invariant (fun other command => other = place →
      ∀ interval, command ≠ .startJanitor interval true) (Idle place) := by
  refine .of_wakeAt ?_ ?_ ?_ ?_
  · intro session later h hcaches
    refine ⟨hcaches ▸ h.lt_length, fun cache hcache => h.not_running cache ?_⟩
    rwa [cache?_of_caches_eq hcaches] at hcache
  · intro session post h
    refine ⟨by rw [length_caches_wakeAt]; exact h.lt_length, fun later hlater => ?_⟩
    by_cases hplace : post.place = place
    · subst hplace
      cases hcache : session.cache? post.place with
      | none =>
          rw [cache?_wakeAt_of_none hcache] at hlater
          exact (Option.some_ne_none later hlater.symm).elim
      | some cache =>
          rw [cache?_wakeAt_self hcache] at hlater
          obtain rfl := Option.some.inj hlater
          exact Cache.not_running_wake (h.not_running cache hcache) _ _ _ _ _
    · rw [cache?_wakeAt_of_ne hplace] at hlater
      exact h.not_running later hlater
  · intro session other command hallowed h
    refine ⟨by rw [length_caches_ask]; exact h.lt_length, fun later hlater => ?_⟩
    by_cases hother : other = place
    · subst hother
      cases hcache : session.cache? other with
      | none =>
          rw [ask_of_none hcache, hcache] at hlater
          exact (Option.some_ne_none later hlater.symm).elim
      | some cache =>
          rw [cache?_ask_self hcache] at hlater
          exact Cache.not_running_of_run (h.not_running cache hcache) (hallowed rfl) hlater
    · rw [cache?_ask_of_ne hother] at hlater
      exact h.not_running later hlater
  · intro session member h
    refine add_of_append (fun cache? turn => ⟨?_, fun cache hcache => ?_⟩) member
    · change place < (session.caches ++ [cache?]).length
      rw [List.length_append]
      exact Nat.lt_add_right _ h.lt_length
    · rw [cache?_append_of_lt h.lt_length] at hcache
      exact h.not_running cache hcache

theorem Idle.play {session : Session} {place : Nat} (h : session.Idle place) {moves : List Move}
    (hmoves : ∀ move ∈ moves, ¬move.Hires place) : (session.play moves).1.Idle place := by
  refine (invariant_idle place).play h fun move hmove => ?_
  have hhires := hmoves move hmove
  cases move with
  | add member => trivial
  | take step =>
      cases step with
      | command other command =>
          rintro rfl interval rfl
          exact hhires rfl
      | shutDownJanitor other => exact fun _ interval heq => by cases heq
      | _ => trivial

theorem answer_isRunning {session : Session} {place : Nat} {cache : Cache Payload}
    (h : session.cache? place = some cache) :
    (session.take (.command place .isRunning)).1 = .reply (.running cache.running) := by
  change (session.ask place .isRunning).1 = _
  rw [ask_of_cache? h]
  rfl

/-! ### While nobody asks -/

def Move.Asks (place : Nat) : Move → Prop
  | .take (.command other _) | .take (.shutDownJanitor other) => other = place
  | _ => False

/-- The cache at the place has the store, and none of its janitors sweeps any more. -/
def Lies (place : Nat) (store : Store String Payload) (session : Session) : Prop :=
  ∃ cache, session.cache? place = some cache ∧ cache.store = store ∧ cache.Unswept

theorem invariant_lies (place : Nat) (store : Store String Payload) :
    Invariant (fun other _ => other ≠ place) (Lies place store) := by
  refine .of_wakeAt ?_ ?_ ?_ ?_
  · rintro session later ⟨cache, hcache, hrest⟩ hcaches
    exact ⟨cache, (cache?_of_caches_eq hcaches place).trans hcache, hrest⟩
  · rintro session post ⟨cache, hcache, hstore, hunswept⟩
    by_cases hplace : post.place = place
    · subst hplace
      obtain ⟨hsame, hwoken, -, -⟩ := hunswept.wake post.station session.uptime session.turn
        (session.lingers session.turn) session.clock
      exact ⟨_, cache?_wakeAt_self hcache, hsame.trans hstore, hwoken⟩
    · exact ⟨cache, (cache?_wakeAt_of_ne hplace).trans hcache, hstore, hunswept⟩
  · rintro session other command hother ⟨cache, hcache, hrest⟩
    exact ⟨cache, (cache?_ask_of_ne hother _).trans hcache, hrest⟩
  · rintro session member ⟨cache, hcache, hrest⟩
    have hlt := lt_length_caches (kept?_of_cache? hcache)
    exact add_of_append (fun cache? turn =>
      ⟨cache, (cache?_append_of_lt hlt cache? turn).trans hcache, hrest⟩) member

/-- Time, other caches and new ones pass by a cache that is not swept any more. -/
theorem Lies.play {session : Session} {place : Nat} {store : Store String Payload}
    (h : session.Lies place store) {moves : List Move}
    (hmoves : ∀ move ∈ moves, ¬move.Asks place) : (session.play moves).1.Lies place store := by
  refine (invariant_lies place store).play h fun move hmove => ?_
  have hasks := hmoves move hmove
  cases move with
  | add member => trivial
  | take step =>
      cases step with
      | command other command => exact hasks
      | shutDownJanitor other => exact hasks
      | _ => trivial

end Session

/-! ### All together -/

/-- The record of a janitor: what it has logged since its start, and what is to come once it has
been told to stop. -/
structure Roll.Record (roll : Roll) (timer : Timer) (log : List (Nat × Event)) (number : Nat)
    (janitor : Janitor) : Prop where
  told : ∃ interval told,
    ofCaller number log = .janitorStarted (Janitor.effectiveInterval interval) :: told ∧
    Janitor.Told janitor.phase told ∧
    janitor.interval = Janitor.effectiveInterval interval ∧
    janitor.schedule.period = (Janitor.period timer interval).toNanos
  /-- It was told to stop and has not said that it did: the clock is still in the millisecond in
  which it started. -/
  leaving : janitor.phase = .leaving → janitor.schedule.due % nanosPerMilli ≠ 0 ∧
    roll.session.uptime / nanosPerMilli = janitor.schedule.due / nanosPerMilli
  idle : ¬janitor.running → ∀ moves, ∃ later,
    (roll.play moves).1.janitor? number = some later ∧ ¬later.running ∧
      Janitor.Leaves janitor (ofCaller number (roll.play moves).2) later

/-- The step ends the running of the janitor at the place and changes no entry and no counter.
Only if somebody waits for the janitor to leave, time passes meanwhile. -/
structure Roll.StoppedBy (roll : Roll) (place : Nat) (cache : Cache Payload) (step : Step) :
    Prop where
  janitor : ∀ number, roll.posts[number]? = some ⟨place, .resident⟩ → ∃ janitor,
    (roll.take step).1.janitor? number = some janitor ∧ ¬janitor.running ∧
      (step = .shutDownJanitor place → janitor.phase = .stopped)
  cache : ∀ later, (roll.session.next step).cache? place = some later →
    later.store = cache.store ∧
      ((∀ interval, step ≠ .command place (.startJanitor interval true)) →
        ¬later.running ∧
          ((roll.session.next step).take (.command place .isRunning)).1 =
            .reply (.running false))
  others : step ≠ .shutDownJanitor place → ∀ other, place ≠ other →
    (roll.session.next step).cache? other = roll.session.cache? other

/-- No janitor runs in the cache at the place. -/
structure Session.Closed (session : Session) (place : Nat) (cache : Cache Payload) : Prop where
  close_eq : ∀ uptime turn clock disk, cache.run uptime turn clock disk .close =
    { reply := .done, cache? := some cache, clock, disk }
  isRunning_eq : ∀ more, (∀ move ∈ more, ¬move.Hires place) → ∀ later,
    (session.play more).1.cache? place = some later →
      ¬later.running ∧
        ((session.play more).1.take (.command place .isRunning)).1 = .reply (.running false)
  /-- The cache is like a bare store, and changes only if somebody asks it. -/
  bare : cache.LeavesQuietly →
    (∀ occasions, (∀ occasion ∈ occasions, ¬occasion.AboutJanitor) →
      cache.along Cache.showing occasions =
        ({ store := cache.store } : Cache Payload).along Cache.showing occasions) ∧
    ∀ more, (∀ move ∈ more, ¬move.Asks place) → (session.play more).1.Lies place cache.store

namespace Roll

variable {roll : Roll} {place number : Nat} {cache : Cache Payload} {timer : Timer}

theorem Faithful.record (h : roll.Faithful) (hsettled : roll.session.Settled)
    {log : List (Nat × Event)} {janitor : Janitor} (hnumber : roll.janitor? number = some janitor)
    (hcareer : Janitor.Career timer none (ofCaller number log) (some janitor)) :
    roll.Record timer log number janitor := by
  refine ⟨?_, fun hphase => milli_of_awaiting hsettled hnumber hcareer (Or.inr hphase),
    fun hidle moves => ?_⟩
  · generalize ofCaller number log = told at hcareer
    cases hcareer with
    | start interval now turn hlives =>
        refine ⟨interval, _, rfl, hlives.told, ?_, ?_⟩
        · rw [hlives.interval_eq, Janitor.interval_start]
        · rw [hlives.period_eq, Janitor.period_start]
    | stint hstint => cases hstint
  · have hlater := (h.play moves).follows.career number
    rw [hnumber] at hlater
    obtain ⟨later, hfound, hlives⟩ := hlater.lives
    have hleaves := hlives.leaves hidle
    exact ⟨later, hfound, hleaves.not_running hidle, hleaves⟩

theorem Faithful.stoppedBy (h : roll.Faithful) (hsettled : roll.session.Settled)
    (hcache : roll.session.cache? place = some cache) {step : Step} (hstops : step.Stops place) :
    roll.StoppedBy place cache step := by
  refine ⟨fun number hpost => h.take_of_stops hsettled hcache hpost hstops,
    fun later hlater => ?_, fun hstep other hother => ?_⟩
  · obtain ⟨hstore, hstopped⟩ := Session.next_of_stops hcache hsettled hstops hlater
    refine ⟨hstore, fun hne => ⟨hstopped hne, ?_⟩⟩
    rw [Session.answer_isRunning hlater, Bool.eq_false_iff.2 (hstopped hne)]
  · cases step with
    | command found command =>
        obtain rfl := hstops.place_eq
        exact Session.cache?_ask_of_ne hother command
    | shutDownJanitor found =>
        obtain rfl : found = place := hstops
        exact absurd rfl hstep
    | _ => exact hstops.elim

end Roll

theorem Session.Settled.closed {session : Session} (h : session.Settled) {place : Nat}
    {cache : Cache Payload} (hcache : session.cache? place = some cache)
    (hidle : ¬cache.running) : session.Closed place cache := by
  have hkept := kept?_of_cache? hcache
  refine ⟨fun uptime turn clock disk => ?_, fun more hmore later hlater => ?_,
    fun hquietly => ⟨fun occasions hoccasions => ?_, fun more hmore => ?_⟩⟩
  · simp only [Cache.run, Cache.stop_of_not_running hidle, Cache.stopEvents_of_not_running hidle,
      hidle, Bool.and_false, Bool.false_eq_true, if_false, List.append_nil]
  · have hplace : session.Idle place :=
      ⟨lt_length_caches hkept, fun found hfound =>
        Option.some.inj (hcache.symm.trans hfound) ▸ hidle⟩
    have hstill := (hplace.play hmore).not_running later hlater
    refine ⟨hstill, ?_⟩
    rw [answer_isRunning hlater, Bool.eq_false_iff.2 hstill]
  · have hunswept := (h place cache hkept).unswept hidle hquietly
    have hbare : ({ store := cache.store } : Cache Payload).Unswept := by
      intro station janitor hjanitor
      cases station <;> exact (Option.some_ne_none janitor hjanitor.symm).elim
    have huntended : cache.Untended { store := cache.store } := ⟨rfl, hunswept, hbare⟩
    exact huntended.along hoccasions
  · have hlies : session.Lies place cache.store :=
      ⟨cache, hcache, rfl, (h place cache hkept).unswept hidle hquietly⟩
    exact hlies.play hmore

/-- **A stopped janitor is gone for good.** In every play each janitor logs that it started, then
its sweeps, and at last, once, that it stopped. An order to stop ends its running for good and
leaves entries and counters as they are; from then on nobody is told that one runs until another one
is started, and closing again does nothing. Only within the millisecond of its start may a janitor
that was told to stop still have to say so, and one that was shut down never. If the beat it awaits
then comes late, it may sweep before it leaves, as many times as its period goes into the lateness
that leaves no due time out; where there is no such janitor, the cache cannot be told from a bare
store from then on. -/
theorem stopped_janitors (clock : Clock) (timer : Timer) (lingers : Nat → Nat)
    (moves : List Session.Move) :
    let outset := Roll.outset clock timer lingers
    let roll := (outset.play moves).1
    let log := (outset.play moves).2
    let played := Session.play { clock, timer, lingers } moves
    roll.Faithful ∧ roll.session = played.1 ∧
    log.map Prod.snd = played.2.filter Event.isOfJanitor ∧
    (∀ more, outset.play (moves ++ more) = ((roll.play more).1, log ++ (roll.play more).2)) ∧
    (∀ number janitor, roll.janitor? number = some janitor →
      roll.Record timer log number janitor) ∧
    ∀ place cache, played.1.cache? place = some cache →
      (∀ step, step.Stops place → roll.StoppedBy place cache step) ∧
      (¬cache.running → played.1.Closed place cache) := by
  intro outset roll log played
  have hattends := (Roll.faithful_outset clock timer lingers).play moves
  have hfaithful : roll.Faithful := hattends.follows.faithful
  have hsession : roll.session = played.1 := hattends.session_eq
  have hplayed : played.1.Settled := (Session.settled_outset clock timer lingers).play moves
  have hsettled : roll.session.Settled := by rwa [hsession]
  refine ⟨hfaithful, hsession, hattends.told, outset.play_append moves,
    fun number janitor hnumber => ?_, fun place cache hcache =>
      ⟨fun step hstops => ?_, fun hidle => hplayed.closed hcache hidle⟩⟩
  · have hcareer : Janitor.Career timer none (ofCaller number log) (some janitor) := by
      rw [← hnumber]
      exact hattends.follows.career number
    exact hfaithful.record hsettled hnumber hcareer
  · rw [← hsession] at hcache
    exact hfaithful.stoppedBy hsettled hcache hstops

/-- Started half a millisecond after the clock with an interval of a millisecond and closed at once,
a janitor has not said that it stopped. When its first beat comes three milliseconds late, it
lingers for one beat more, and the expired entry is swept from the closed cache. -/
theorem swept_by_janitor_told_to_stop :
    let interval : Duration := .ofMillis 1
    let started : List Session.Move := [.add .bare,
      .take (.advance { seconds := 0, nanos := 500000 }),
      .take (.command 0 (.startJanitor interval true)),
      .take (.command 0 (.serve (.put "x" (.text "v") { seconds := 0 })))]
    let outset := Roll.outset { steady := { seconds := 0 } } .standard fun _ => 1
    let closed := outset.play (started ++ [.take (.command 0 .close)])
    let later := closed.1.play [.take (.advance (.ofMillis 3))]
    let entries := fun roll : Roll => (roll.session.cache? 0).map fun cache => cache.store.size
    (Step.command 0 .close).Stops 0 ∧ closed.1.posts = [⟨0, .resident⟩] ∧
      (closed.1.janitor? 0).map (·.running) = some false ∧
      ofCaller 0 closed.2 = [.janitorStarted interval] ∧ entries closed.1 = some 1 ∧
      ofCaller 0 later.2 = [.swept 1, .janitorStopped] ∧ entries later.1 = some 0 := by
  intro interval started outset closed later entries
  refine ⟨rfl, ?_, ?_, ?_, ?_, ?_, ?_⟩
  · decide +kernel
  · decide +kernel
  · decide +kernel
  · decide +kernel
  · decide +kernel
  · decide +kernel

end ExpiringCache
