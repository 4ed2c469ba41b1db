import ExpiringCache.Proofs.Session.Roll
/-!
# The roll beside a play

Each operation of a session keeps its roll: what the cache at one place does is a piece of the life
of one of its janitors, and whoever is let go moves behind the others. Operations follow one
another, so the roll keeps up with every play, and what it signs is what the log of the session says
of janitors.
-/

namespace ExpiringCache

open Log

/-! ### What a cache does to its janitors -/

namespace Janitor

theorem interval_start (timer : Timer) (interval : Duration) (now turn : Nat) :
    (start timer interval now turn).interval = effectiveInterval interval := by
  rw [start_eq]
  exact (period_interval_wake _ now turn 0).2

theorem period_start (timer : Timer) (interval : Duration) (now turn : Nat) :
    (start timer interval now turn).schedule.period = (period timer interval).toNanos := by
  rw [start_eq]
  exact (period_interval_wake _ now turn 0).1

theorem filter_intervalWarnings (interval : Duration) :
    (intervalWarnings interval).filter Event.isOfJanitor = [] := by
  unfold intervalWarnings
  split <;> rfl

theorem filter_sweepLog (removals : List Nat) :
    (sweepLog removals).filter Event.isOfJanitor = sweepLog removals :=
  List.filter_eq_self.2 fun event hevent => by
    obtain ⟨removed, -, rfl⟩ := List.mem_map.1 hevent
    rfl

theorem filter_farewell (before after : Janitor) :
    (before.farewell after).filter Event.isOfJanitor = before.farewell after := by
  unfold farewell
  split <;> rfl

end Janitor

theorem Store.filter_event_reload {ν : Type} [SnapshotText ν] (store : Store String ν)
    (path : String) (policy : SnapshotPolicy) (image : Except IoError (List UInt8))
    (clock : Clock) :
    [(store.reload path policy image clock).event].filter Event.isOfJanitor = [] := by
  unfold reload
  split
  · rfl
  · split <;> rfl

/-- No janitor moves. -/
def Command.StaysBy {ν : Type} : Command ν → Prop
  | .discard | .releaseJanitor | .startJanitor _ true => False
  | _ => True

namespace Cache

variable {ν : Type}

theorem exists_sweepLog_eq (store : Store String ν) (clock : Clock) (n : Nat) :
    ∃ removals : List Nat, removals.length = n ∧
      (sweep store clock n).2.2 = Janitor.sweepLog removals := by
  induction n generalizing store clock with
  | zero => exact ⟨[], rfl, rfl⟩
  | succ n ih =>
      obtain ⟨removals, hlength, hlog⟩ := ih (store.purge clock).2.1 (store.purge clock).2.2
      refine ⟨(store.purge clock).1 :: removals, congrArg (· + 1) hlength, ?_⟩
      exact congrArg (List.cons _) hlog

theorem stint_wake (cache : Cache ν) (station : Station) (now turn lingers : Nat)
    (clock : Clock) :
    Janitor.Stint (cache.janitorAt? station)
      ((cache.wake station now turn lingers clock).2.2.filter Event.isOfJanitor)
      ((cache.wake station now turn lingers clock).1.janitorAt? station) := by
  cases hjanitor : cache.janitorAt? station with
  | none =>
      rw [wake_of_none hjanitor, hjanitor]
      exact .nobody
  | some janitor =>
      obtain ⟨removals, hlength, hlog⟩ :=
        exists_sweepLog_eq cache.store clock (janitor.wake now turn lingers).1
      have hwake := Janitor.Lives.rest.wake now turn lingers hlength
      rw [janitorAt?_wake_self hjanitor]
      simp only [wake, hjanitor]
      rw [hlog, List.filter_append, Janitor.filter_sweepLog, Janitor.filter_farewell]
      exact .somebody hwake

theorem filter_stopEvents (cache : Cache ν) :
    cache.stopEvents.filter Event.isOfJanitor = cache.stopEvents := by
  unfold stopEvents
  cases cache.janitor? with
  | none => rfl
  | some janitor => exact Janitor.filter_farewell _ _

theorem not_running_stop (cache : Cache ν) : ¬cache.stop.running := by
  unfold running stop
  cases cache.janitor? with
  | none => exact Bool.false_ne_true
  | some janitor => exact janitor.not_running_stop

theorem stint_stop (cache : Cache ν) :
    Janitor.Stint cache.janitor? cache.stopEvents cache.stop.janitor? := by
  unfold stopEvents stop
  cases cache.janitor? with
  | none => exact .nobody
  | some janitor => exact .somebody Janitor.Lives.rest.stop

variable [SnapshotText ν]

/-- Who does not move sleeps through the command; the resident janitor may be told to stop. -/
theorem stint_run_of_staysBy {command : Command ν} (h : command.StaysBy) (cache : Cache ν)
    (now turn : Nat) (clock : Clock) (disk : Disk) :
    ∃ later, (cache.run now turn clock disk command).cache? = some later ∧
      later.former = cache.former ∧
      Janitor.Stint cache.janitor?
        ((cache.run now turn clock disk command).log.filter Event.isOfJanitor)
        later.janitor? := by
  have hrest := Janitor.stint_rest cache.janitor?
  cases command with
  | close =>
      have hannounced : (if cache.managed && cache.running then [Event.cacheClosing] else []).filter
          Event.isOfJanitor = [] := by split <;> rfl
      refine ⟨_, rfl, rfl, ?_⟩
      simp only [run, List.filter_append, hannounced, filter_stopEvents]
      exact cache.stint_stop
  | save path policy =>
      simp only [run]
      split
      · exact ⟨_, rfl, rfl, hrest⟩
      · exact ⟨_, rfl, rfl, hrest⟩
  | startJanitor interval onRuntime =>
      cases onRuntime with
      | true => exact h.elim
      | false =>
          refine ⟨_, rfl, rfl, ?_⟩
          simp only [run, Bool.false_eq_true, if_false, Janitor.filter_intervalWarnings]
          exact hrest
  | reload path policy =>
      refine ⟨_, rfl, rfl, ?_⟩
      have hquiet := cache.store.filter_event_reload path policy (disk.read path) clock
      simp only [run, hquiet]
      exact hrest
  | discard => exact h.elim
  | releaseJanitor => exact h.elim
  | _ => exact ⟨_, rfl, rfl, hrest⟩

end Cache

/-! ### What a session does to its janitors -/

namespace Session

variable {session : Session} {place : Nat} {cache : Cache Payload} {post : Post}

theorem stint_wakeAt (session : Session) (post : Post) :
    Janitor.Stint (session.janitorAt? post) ((session.wakeAt post).2.filter Event.isOfJanitor)
      ((session.wakeAt post).1.janitorAt? post) := by
  cases hkept : session.kept? post.place with
  | none =>
      rw [wakeAt_of_none hkept]
      exact Janitor.stint_rest _
  | some cache =>
      rw [janitorAt?_of_kept? (kept?_wakeAt_self hkept), janitorAt?_of_kept? hkept,
        wakeAt_of_kept? hkept]
      exact cache.stint_wake _ _ _ _ _

theorem janitorAt?_ask_of_ne (hne : post.place ≠ place) (command : Command Payload) :
    (session.ask place command).2.1.janitorAt? post = session.janitorAt? post := by
  rw [janitorAt?, kept?_ask_of_ne (Ne.symm hne), janitorAt?]

theorem log_ask (hcache : session.cache? place = some cache) (command : Command Payload) :
    (session.ask place command).2.2 =
      (cache.run session.uptime session.turn session.clock session.disk command).log := by
  rw [ask_of_cache? hcache]


/-! #### Janitors that are let go -/

section LetGo

variable (hcache : session.cache? place = some cache) {command : Command Payload}
  (hgoes : command = .discard ∨ command = .releaseJanitor)

include hcache hgoes

theorem janitorAt?_ask_of_goes (station : Station) :
    (session.ask place command).2.1.janitorAt? ⟨place, station⟩ =
      cache.letGo.janitorAt? station := by
  rw [janitorAt?_of_kept? (kept?_ask_self hcache command)]
  rcases hgoes with rfl | rfl
  · cases station <;> rfl
  · rfl

theorem log_ask_of_goes : (session.ask place command).2.2 = cache.stopEvents := by
  rw [log_ask hcache]
  rcases hgoes with rfl | rfl <;> rfl

end LetGo

theorem janitorAt?_ask_startJanitor_of_ne (hcache : session.cache? place = some cache)
    (interval : Duration) (hpost : post ≠ ⟨place, .resident⟩) :
    (session.ask place (.startJanitor interval true)).2.1.janitorAt? post =
      (session.ask place .releaseJanitor).2.1.janitorAt? post := by
  by_cases hat : post.place = place
  · obtain ⟨_, station⟩ := post
    subst hat
    rw [janitorAt?_ask_of_goes hcache (Or.inr rfl), janitorAt?_of_kept? (kept?_ask_self hcache _)]
    cases station with
    | resident => exact absurd rfl hpost
    | former index => rfl
  · rw [janitorAt?_ask_of_ne hat, janitorAt?_ask_of_ne hat]

end Session

namespace Roll

variable {roll later third : Roll} {place number : Nat} {post : Post} {session : Session}
  {log : List Event} {cache : Cache Payload}

/-- The roll after an operation goes with the session after it, and what was signed with its log. -/
structure Attends (roll : Roll) (after : Roll × List (Nat × Event))
    (plain : Session × List Event) : Prop where
  session_eq : after.1.session = plain.1
  told : after.2.map Prod.snd = plain.2.filter Event.isOfJanitor
  follows : roll.Follows after.1 after.2

theorem Attends.trans {signed more : List (Nat × Event)} {plain : List Event}
    {next : Session × List Event} (h : roll.Attends (later, signed) (session, plain))
    (h' : later.Attends (third, more) next) :
    roll.Attends (third, signed ++ more) (next.1, plain ++ next.2) := by
  refine ⟨h'.session_eq, ?_, h.follows.trans h'.follows⟩
  have htold := h.told
  have htold' := h'.told
  rw [List.map_append, List.filter_append, htold, htold']

theorem Faithful.attends_rest (h : roll.Faithful) : roll.Attends (roll, []) (roll.session, []) :=
  ⟨rfl, rfl, h.rest⟩

theorem Faithful.attends_of_janitors_eq (h : roll.Faithful)
    (htimer : session.timer = roll.session.timer) (huniform : session.Uniform)
    (hjanitors : ∀ post, session.janitorAt? post = roll.session.janitorAt? post) :
    roll.Attends ({ roll with session }, []) (session, []) := by
  refine ⟨rfl, rfl, ⟨h.nodup, fun post => ?_, huniform⟩, htimer, fun number => ?_⟩
  · change _ ↔ (session.janitorAt? post).isSome
    rw [hjanitors, h.mem_iff]
  · have hsame : Roll.janitor? { roll with session } number = roll.janitor? number := by
      change roll.posts[number]?.bind session.janitorAt? = _
      rw [funext hjanitors, janitor?]
    rw [hsame]
    exact Janitor.career_rest _ _

theorem Faithful.attends_of_caches_eq (h : roll.Faithful)
    (htimer : session.timer = roll.session.timer)
    (hcaches : session.caches = roll.session.caches) :
    roll.Attends ({ roll with session }, []) (session, []) := by
  have hkept : ∀ place, session.kept? place = roll.session.kept? place := fun place => by
    rw [Session.kept?, hcaches, Session.kept?]
  refine h.attends_of_janitors_eq htimer (fun place cache hcache => ?_) fun post => ?_
  · rw [hkept] at hcache
    exact (h.uniform place cache hcache).trans htimer.symm
  · rw [Session.janitorAt?, hkept, Session.janitorAt?]

/-! ### Waking -/

theorem Faithful.wakeAt (h : roll.Faithful) (post : Post) :
    roll.Attends (roll.wakeAt post) (roll.session.wakeAt post) := by
  have hstays : roll.Stays post (roll.session.wakeAt post).1 (roll.session.wakeAt post).2 :=
    ⟨roll.session.timer_wakeAt post, h.uniform.wakeAt post,
      fun other hother => Session.janitorAt?_wakeAt_of_ne (Ne.symm hother),
      roll.session.stint_wakeAt post⟩
  exact ⟨rfl, (hstays.moves h).map_snd_signed h, hstays.follows h⟩

theorem Faithful.wakeEach (h : roll.Faithful) (order : List Post) :
    roll.Attends (roll.wakeEach order) (roll.session.wakeEach order) := by
  induction order generalizing roll with
  | nil => exact h.attends_rest
  | cons head rest ih =>
      have hfirst := h.wakeAt head
      exact hfirst.trans (ih hfirst.follows.faithful)

theorem Faithful.wake (h : roll.Faithful) : roll.Attends roll.wake roll.session.wake :=
  h.wakeEach roll.session.wakeOrder

/-! ### Time -/

theorem Faithful.advance (h : roll.Faithful) (elapsed : Duration) :
    roll.Attends (roll.advance elapsed) (roll.session.advance elapsed) := by
  have hpass : roll.Attends ({ roll with session := roll.session.pass elapsed }, [])
      (roll.session.pass elapsed, []) := h.attends_of_caches_eq rfl rfl
  exact hpass.trans hpass.follows.faithful.wake

theorem Faithful.elapse (h : roll.Faithful) (millis : Nat) :
    roll.Attends (roll.elapse millis) (roll.session.elapse millis) := by
  induction millis generalizing roll with
  | zero => exact h.attends_rest
  | succ millis ih =>
      have hfirst := h.advance { seconds := 0, nanos := nanosPerMilli }
      have hrest := ih hfirst.follows.faithful
      rw [hfirst.session_eq] at hrest
      exact hfirst.trans hrest

/-! ### Commands -/

theorem ask_eq_of_none (hcache : roll.session.cache? place = none) (command : Command Payload) :
    roll.ask place command = (roll, []) := by
  have hquiet : signed (roll.number? ⟨place, .resident⟩) [] = [] := by
    cases roll.number? ⟨place, .resident⟩ <;> rfl
  simp only [Roll.ask, Session.ask_of_none hcache command, hcache, hquiet]

theorem ask_eq_of_staysBy (hcache : roll.session.cache? place = some cache)
    {command : Command Payload} (hstays : command.StaysBy) :
    roll.ask place command =
      ({ roll with session := (roll.session.ask place command).2.1 },
        signed (roll.number? ⟨place, .resident⟩) (roll.session.ask place command).2.2) := by
  cases command with
  | startJanitor interval onRuntime =>
      cases onRuntime with
      | true => exact hstays.elim
      | false => simp only [Roll.ask, hcache]
  | discard => exact hstays.elim
  | releaseJanitor => exact hstays.elim
  | _ => simp only [Roll.ask, hcache]

theorem Faithful.stays_of_staysBy (h : roll.Faithful)
    (hcache : roll.session.cache? place = some cache) {command : Command Payload}
    (hstays : command.StaysBy) :
    roll.Stays ⟨place, .resident⟩ (roll.session.ask place command).2.1
      (roll.session.ask place command).2.2 := by
  obtain ⟨later, hlater, hformer, hstint⟩ := Cache.stint_run_of_staysBy hstays cache
    roll.session.uptime roll.session.turn roll.session.clock roll.session.disk
  have hkept := Session.kept?_ask_self hcache command
  rw [hlater, Option.getD_some] at hkept
  have hafter : ∀ station, (roll.session.ask place command).2.1.janitorAt? ⟨place, station⟩ =
      later.janitorAt? station := fun _ => Session.janitorAt?_of_kept? hkept
  have hbefore : ∀ station, roll.session.janitorAt? ⟨place, station⟩ =
      cache.janitorAt? station := Session.janitorAt?_of_cache? hcache
  refine ⟨roll.session.timer_ask place command, h.uniform.ask place command,
    fun other hother => ?_, ?_⟩
  · by_cases hplace : other.place = place
    · obtain ⟨_, station⟩ := other
      subst hplace
      rw [hafter, hbefore]
      cases station with
      | resident => exact absurd rfl hother
      | former index => rw [Cache.janitorAt?, hformer, Cache.janitorAt?]
    · exact Session.janitorAt?_ask_of_ne hplace command
  · rw [hafter, hbefore, Session.log_ask hcache]
    exact hstint

theorem Faithful.ask_of_staysBy (h : roll.Faithful)
    (hcache : roll.session.cache? place = some cache) {command : Command Payload}
    (hstays : command.StaysBy) :
    roll.Attends (roll.ask place command) (roll.session.ask place command).2 := by
  have hstay := h.stays_of_staysBy hcache hstays
  rw [ask_eq_of_staysBy hcache hstays]
  exact ⟨rfl, (hstay.moves h).map_snd_signed h, hstay.follows h⟩

/-- The resident janitor goes behind those that were let go before. -/
theorem Faithful.moves_of_goes (h : roll.Faithful)
    (hcache : roll.session.cache? place = some cache) {command : Command Payload}
    (hgoes : command = .discard ∨ command = .releaseJanitor) :
    roll.Moves (Post.moved place cache.former.length) ⟨place, .resident⟩
      (roll.session.ask place command).2.1 (roll.session.ask place command).2.2 := by
  have hthere : ∀ station, (⟨place, station⟩ : Post) ∈ roll.posts ↔
      (cache.janitorAt? station).isSome := fun station => by
    rw [h.mem_iff, Session.janitorAt?_of_cache? hcache]
  have hself : ∀ station, Post.moved place cache.former.length ⟨place, station⟩ =
      ⟨place, station.moved cache.former.length⟩ := fun station => if_pos rfl
  have hne : ∀ {other : Post}, other.place ≠ place →
      other.moved place cache.former.length = other := fun hplace => if_neg hplace
  have hplace : ∀ other : Post, (other.moved place cache.former.length).place = other.place := by
    intro other
    unfold Post.moved
    split <;> rfl
  have hafter := Session.janitorAt?_ask_of_goes hcache hgoes
  refine ⟨roll.session.timer_ask place command, h.uniform.ask place command, ?_, ?_, ?_, ?_⟩
  · intro a ha b hb heq
    have hsame : a.place = b.place := by
      rw [← hplace a, heq, hplace b]
    by_cases hat : a.place = place
    · obtain ⟨_, station⟩ := a
      obtain ⟨_, other⟩ := b
      subst hat
      obtain rfl := hsame
      rw [hself, hself] at heq
      have hstation := Cache.moved_inj ((hthere station).1 ha) ((hthere other).1 hb)
        (Post.mk.inj heq).2
      rw [hstation]
    · rwa [hne hat, hne (hsame ▸ hat)] at heq
  · intro other hsome
    by_cases hat : other.place = place
    · obtain ⟨_, station⟩ := other
      subst hat
      rw [hafter] at hsome
      obtain ⟨before, hbefore, rfl⟩ := Cache.exists_of_janitorAt?_letGo hsome
      exact ⟨⟨_, before⟩, (hthere before).2 hbefore, hself before⟩
    · rw [Session.janitorAt?_ask_of_ne hat] at hsome
      exact ⟨other, (h.mem_iff other).2 hsome, hne hat⟩
  · intro other hmem hother
    by_cases hat : other.place = place
    · obtain ⟨_, station⟩ := other
      subst hat
      have hstation : station ≠ .resident := fun heq => hother (heq ▸ rfl)
      rw [hself, hafter, cache.janitorAt?_letGo_moved station ((hthere station).1 hmem),
        Cache.janitorAt?_stop, if_neg hstation, Session.janitorAt?_of_cache? hcache]
    · rw [hne hat, Session.janitorAt?_ask_of_ne hat]
  · rw [hself, hafter, cache.janitorAt?_letGo_moved_resident,
      Session.janitorAt?_of_cache? hcache, Session.log_ask_of_goes hcache hgoes,
      cache.filter_stopEvents]
    exact cache.stint_stop

theorem ask_of_goes (hcache : roll.session.cache? place = some cache)
    {command : Command Payload} (hgoes : command = .discard ∨ command = .releaseJanitor) :
    roll.ask place command =
      ({ session := (roll.session.ask place command).2.1
         posts := roll.posts.map (Post.moved place cache.former.length) },
        signed (roll.number? ⟨place, .resident⟩) (roll.session.ask place command).2.2) := by
  rcases hgoes with rfl | rfl <;> simp only [Roll.ask, hcache]

theorem Faithful.attends_of_goes (h : roll.Faithful)
    (hcache : roll.session.cache? place = some cache) {command : Command Payload}
    (hgoes : command = .discard ∨ command = .releaseJanitor) :
    roll.Attends (roll.ask place command) (roll.session.ask place command).2 := by
  have hmoves := h.moves_of_goes hcache hgoes
  rw [ask_of_goes hcache hgoes]
  exact ⟨rfl, hmoves.map_snd_signed h, hmoves.follows h⟩

theorem log_startJanitor (hcache : roll.session.cache? place = some cache) (interval : Duration) :
    (roll.session.ask place (.startJanitor interval true)).2.2.filter Event.isOfJanitor =
      .janitorStarted (Janitor.effectiveInterval interval) :: cache.stopEvents := by
  rw [Session.log_ask hcache]
  change (Janitor.intervalWarnings interval ++ .janitorStarted
    (Janitor.start cache.timer interval _ _).interval :: cache.stopEvents).filter _ = _
  rw [Janitor.interval_start, List.filter_append, Janitor.filter_intervalWarnings,
    List.nil_append, List.filter_cons_of_pos rfl, cache.filter_stopEvents]

theorem ask_startJanitor_eq (hcache : roll.session.cache? place = some cache)
    (interval : Duration) :
    roll.ask place (.startJanitor interval true) =
      ({ session := (roll.session.ask place (.startJanitor interval true)).2.1
         posts := roll.posts.map (Post.moved place cache.former.length) ++ [⟨place, .resident⟩] },
        signed (some roll.posts.length)
            [.janitorStarted (Janitor.effectiveInterval interval)] ++
          signed (roll.number? ⟨place, .resident⟩) cache.stopEvents) := by
  simp only [Roll.ask, hcache]

theorem Faithful.janitorAt?_ask_startJanitor (h : roll.Faithful)
    (hcache : roll.session.cache? place = some cache) (interval : Duration) :
    (roll.session.ask place (.startJanitor interval true)).2.1.janitorAt? ⟨place, .resident⟩ =
      some (Janitor.start roll.session.timer interval roll.session.uptime roll.session.turn) := by
  rw [Session.janitorAt?_of_kept? (Session.kept?_ask_self hcache _),
    ← h.uniform place cache (Session.kept?_of_cache? hcache)]
  rfl

/-- The new janitor gets its number when the one before it has been let go. -/
theorem Faithful.follows_startJanitor (h : roll.Faithful)
    (hcache : roll.session.cache? place = some cache) (interval : Duration) :
    (roll.ask place .releaseJanitor).1.Follows (roll.ask place (.startJanitor interval true)).1
      (signed (some roll.posts.length)
        [.janitorStarted (Janitor.effectiveInterval interval)]) := by
  have hletGo := (h.attends_of_goes hcache (Or.inr rfl)).follows.faithful
  have hgone := Session.janitorAt?_ask_of_goes hcache (Or.inr rfl)
  have htimer : (roll.session.ask place .releaseJanitor).2.1.timer = roll.session.timer :=
    roll.session.timer_ask place .releaseJanitor
  have hlength : (roll.posts.map (Post.moved place cache.former.length)).length =
      roll.posts.length := List.length_map _
  rw [ask_of_goes hcache (Or.inr rfl)] at hletGo ⊢
  rw [ask_startJanitor_eq hcache, ← hlength]
  apply hletGo.follows_hire
  · exact hgone .resident
  · exact (roll.session.timer_ask place _).trans htimer.symm
  · exact h.uniform.ask place _
  · exact fun other hother => Session.janitorAt?_ask_startJanitor_of_ne hcache interval hother
  · rfl
  · rw [htimer]
    exact h.janitorAt?_ask_startJanitor hcache interval

theorem Faithful.number?_lt (h : roll.Faithful) (hnumber : roll.number? post = some number) :
    number < roll.posts.length :=
  (List.getElem?_eq_some_iff.1 (h.number?_eq_some_iff.1 hnumber)).1

theorem Faithful.ask_startJanitor (h : roll.Faithful)
    (hcache : roll.session.cache? place = some cache) (interval : Duration) :
    roll.Attends (roll.ask place (.startJanitor interval true))
      (roll.session.ask place (.startJanitor interval true)).2 := by
  have hletGo := h.attends_of_goes hcache (Or.inr rfl)
  have hboth := hletGo.follows.trans (h.follows_startJanitor hcache interval)
  have hstopped := hletGo.told
  rw [ask_of_goes hcache (Or.inr rfl)] at hboth hstopped
  rw [Session.log_ask_of_goes hcache (Or.inr rfl)] at hboth hstopped
  refine ⟨?_, ?_, hboth.faithful, hboth.timer_eq, fun number => ?_⟩
  · rw [ask_startJanitor_eq hcache]
  · rw [ask_startJanitor_eq hcache, List.map_append, hstopped, log_startJanitor hcache,
      cache.filter_stopEvents]
    rfl
  · -- The log names the new janitor first, and neither line bears the number of the other.
    have hcareer := hboth.career number
    rw [ofCaller_append, ofCaller_signed, ofCaller_signed] at hcareer
    rw [ask_startJanitor_eq hcache] at hcareer ⊢
    rw [ofCaller_append, ofCaller_signed, ofCaller_signed]
    by_cases hnumber : some roll.posts.length = some number
    · have hresident : roll.number? ⟨place, .resident⟩ ≠ some number := fun hresident =>
        (h.number?_lt hresident).ne' (Option.some.inj hnumber)
      rw [if_neg hresident, List.nil_append] at hcareer
      rwa [if_neg hresident, List.append_nil]
    · rw [if_neg hnumber, List.append_nil] at hcareer
      rwa [if_neg hnumber, List.nil_append]

theorem Faithful.ask (h : roll.Faithful) (place : Nat) (command : Command Payload) :
    roll.Attends (roll.ask place command) (roll.session.ask place command).2 := by
  cases hcache : roll.session.cache? place with
  | none =>
      rw [ask_eq_of_none hcache, Session.ask_of_none hcache]
      exact h.attends_rest
  | some cache =>
      cases command with
      | startJanitor interval onRuntime =>
          cases onRuntime with
          | true => exact h.ask_startJanitor hcache interval
          | false => exact h.ask_of_staysBy hcache trivial
      | discard => exact h.attends_of_goes hcache (Or.inl rfl)
      | releaseJanitor => exact h.attends_of_goes hcache (Or.inr rfl)
      | _ => exact h.ask_of_staysBy hcache trivial

theorem Faithful.shutDownJanitor (h : roll.Faithful) (place : Nat) :
    roll.Attends (roll.shutDownJanitor place) (roll.session.shutDownJanitor place).2 := by
  have hask := h.ask place .releaseJanitor
  unfold Roll.shutDownJanitor Session.shutDownJanitor
  dsimp only
  split
  · rw [← hask.session_eq]
    have hpass : (roll.ask place .releaseJanitor).1.Attends
        ({ (roll.ask place .releaseJanitor).1 with
          session := { (roll.ask place .releaseJanitor).1.session with
            uptime := (roll.ask place .releaseJanitor).1.session.uptime + nanosPerMilli } }, [])
        ({ (roll.ask place .releaseJanitor).1.session with
          uptime := (roll.ask place .releaseJanitor).1.session.uptime + nanosPerMilli }, []) :=
      hask.follows.faithful.attends_of_caches_eq rfl rfl
    exact hask.trans (hpass.trans hpass.follows.faithful.wake)
  · exact hask

/-! ### Members, steps and plays -/

theorem Faithful.attends_append (h : roll.Faithful) {cache? : Option (Cache Payload)}
    (htimer : ∀ cache, cache? = some cache → cache.timer = roll.session.timer)
    (hnobody : ∀ station, cache?.bind (·.janitorAt? station) = none) :
    roll.Attends
      ({ roll with session := { roll.session with caches := roll.session.caches ++ [cache?] } }, [])
      ({ roll.session with caches := roll.session.caches ++ [cache?] }, []) := by
  refine h.attends_of_janitors_eq rfl (h.uniform.append _ htimer) fun ⟨place, station⟩ => ?_
  by_cases hplace : place = roll.session.caches.length
  · subst hplace
    rw [Session.janitorAt?_length_caches]
    exact (roll.session.janitorAt?_append_self station cache? _).trans (hnobody station)
  · exact Session.janitorAt?_append_of_ne hplace cache? _

theorem Faithful.add_managed (h : roll.Faithful) (interval : Duration) :
    roll.Attends (roll.add (.managed interval true))
      (roll.session.add (.managed interval true)).2 := by
  have hlog : (Cache.createEvents interval).filter Event.isOfJanitor =
      [.janitorStarted (Janitor.effectiveInterval interval)] := by
    rw [Cache.createEvents, List.filter_append, Janitor.filter_intervalWarnings]
    rfl
  refine ⟨rfl, map_snd_signed fun hnone => (Option.some_ne_none _ hnone).elim, ?_⟩
  apply h.follows_hire
  · exact roll.session.janitorAt?_length_caches .resident
  · rfl
  · exact h.uniform.append _ fun cache hcache => Option.some.inj hcache ▸ rfl
  · intro ⟨place, station⟩ hother
    by_cases hplace : place = roll.session.caches.length
    · subst hplace
      rw [Session.janitorAt?_length_caches]
      refine (roll.session.janitorAt?_append_self station _ _).trans ?_
      cases station with
      | resident => exact absurd rfl hother
      | former index => rfl
    · exact Session.janitorAt?_append_of_ne hplace _ _
  · exact hlog
  · exact roll.session.janitorAt?_append_self .resident _ _

theorem Faithful.add (h : roll.Faithful) (member : Member) :
    roll.Attends (roll.add member) (roll.session.add member).2 := by
  cases member with
  | bare =>
      refine h.attends_append (fun cache hcache => Option.some.inj hcache ▸ rfl) fun station => ?_
      cases station <;> rfl
  | managed interval onRuntime =>
      cases onRuntime with
      | false =>
          exact h.attends_append (fun cache hcache => (Option.some_ne_none cache hcache.symm).elim)
            fun _ => rfl
      | true => exact h.add_managed interval

theorem Faithful.take (h : roll.Faithful) (step : Step) :
    roll.Attends (roll.take step) (roll.session.take step).2 := by
  cases step with
  | advance elapsed => exact h.advance elapsed
  | elapse millis => exact h.elapse millis
  | command place command => exact h.ask place command
  | shutDownJanitor place => exact h.shutDownJanitor place
  | _ => exact h.attends_of_caches_eq rfl rfl

theorem Faithful.play (h : roll.Faithful) (moves : List Session.Move) :
    roll.Attends (roll.play moves) (roll.session.play moves) := by
  induction moves generalizing roll with
  | nil => exact h.attends_rest
  | cons move rest ih =>
      cases move with
      | add member =>
          have hfirst := h.add member
          have hrest := ih hfirst.follows.faithful
          rw [hfirst.session_eq] at hrest
          exact hfirst.trans hrest
      | take step =>
          have hfirst := h.take step
          have hrest := ih hfirst.follows.faithful
          rw [hfirst.session_eq] at hrest
          exact hfirst.trans hrest

theorem faithful_outset (clock : Clock) (timer : Timer) (lingers : Nat → Nat) :
    (outset clock timer lingers).Faithful where
  nodup := List.nodup_nil
  mem_iff _ := iff_of_false List.not_mem_nil Bool.false_ne_true
  uniform _ cache hcache := (Option.some_ne_none cache hcache.symm).elim

end Roll

end ExpiringCache
