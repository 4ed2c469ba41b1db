import ExpiringCache.Proofs.Session.RollCall
/-!
# Between two steps nothing is due

After every move of a play no janitor has a beat due, and none waits for a first beat that lies
ahead of the running clock. A janitor that has not had its first beat by then started within the
millisecond that the clock is in. Whoever was let go was told to stop.
-/

namespace ExpiringCache

open Log

namespace Janitor

variable {janitor : Janitor} {uptime : Nat}

structure Settled (janitor : Janitor) (uptime : Nat) : Prop where
  not_due : ¬janitor.DueAt uptime
  due_le : janitor.Awaiting → janitor.schedule.due ≤ uptime

theorem settled_start (timer : Timer) (interval : Duration) (now turn : Nat) :
    (start timer interval now turn).Settled now := by
  refine ⟨?_, fun hawaiting => (due_of_awaiting_start hawaiting).1.le⟩
  rw [start_eq]
  exact not_dueAt_wake _ now turn 0

theorem Settled.stop (h : janitor.Settled uptime) : janitor.stop.Settled uptime := by
  refine ⟨fun hdue => h.not_due ⟨fun hphase => hdue.1 ?_, ?_⟩, fun hawaiting => ?_⟩
  · rwa [stop_of_not_running (not_running_of_stopped hphase)]
  · have hschedule := hdue.2
    rwa [schedule_stop] at hschedule
  · rw [schedule_stop]
    exact h.due_le (awaiting_of_stop hawaiting)

theorem Settled.not_dueAt (h : janitor.Settled uptime) (hawaiting : janitor.Awaiting) :
    ¬janitor.schedule.DueAt uptime := by
  refine fun hdue => h.not_due ⟨?_, hdue⟩
  rcases hawaiting with hphase | hphase <;> rw [hphase] <;> decide

theorem Settled.div_eq (h : janitor.Settled uptime) (hawaiting : janitor.Awaiting) :
    uptime / nanosPerMilli = janitor.schedule.due / nanosPerMilli := by
  have hle := h.due_le hawaiting
  have hnot := h.not_dueAt hawaiting
  -- A beat is due with the first millisecond that does not lie before it.
  simp only [Schedule.DueAt, Schedule.dueMilli, nanosPerMilli] at *
  omega

end Janitor

namespace Cache

variable {ν : Type} {cache : Cache ν} {uptime : Nat}

/-- Nothing is due in the cache, and whoever it let go was told to stop. -/
structure Settled (cache : Cache ν) (uptime : Nat) : Prop where
  janitor : cache.HasJanitors (·.Settled uptime)
  retired : ∀ (index : Nat) (janitor : Janitor), cache.former[index]? = some janitor →
    ¬janitor.running

theorem Settled.stop (h : cache.Settled uptime) : cache.stop.Settled uptime :=
  ⟨h.janitor.stop fun _ => Janitor.Settled.stop, h.retired⟩

theorem Settled.letGo (h : cache.Settled uptime) : cache.letGo.Settled uptime := by
  refine ⟨h.janitor.letGo fun _ => Janitor.Settled.stop, fun index janitor hjanitor => ?_⟩
  have hthere : cache.letGo.janitorAt? (.former index) = some janitor := hjanitor
  obtain ⟨before, hsome, hmoved⟩ :=
    exists_of_janitorAt?_letGo (Option.isSome_iff_exists.2 ⟨janitor, hthere⟩)
  rw [← hmoved, janitorAt?_letGo_moved cache before hsome] at hthere
  cases before with
  | resident =>
      obtain ⟨found, -, rfl⟩ := Option.map_eq_some_iff.1 hthere
      exact found.not_running_stop
  | former index => exact h.retired index janitor hthere

theorem Settled.hire (h : cache.Settled uptime) {janitor : Janitor}
    (hjanitor : janitor.Settled uptime) :
    { cache with janitor? := some janitor }.Settled uptime :=
  ⟨h.janitor.hire hjanitor, h.retired⟩

theorem settled_of_none (hjanitor : cache.janitor? = none) (hformer : cache.former = []) :
    cache.Settled uptime := by
  refine ⟨hasJanitors_of_none hjanitor hformer, fun index janitor hfound => ?_⟩
  rw [hformer, List.getElem?_nil] at hfound
  exact (Option.some_ne_none janitor hfound.symm).elim

variable [SnapshotText ν]

theorem Settled.run (h : cache.Settled uptime) (turn : Nat) (clock : Clock) (disk : Disk)
    (command : Command ν) :
    ((cache.run uptime turn clock disk command).cache?.getD cache.discard).Settled uptime := by
  have hstore : ∀ store : Store String ν, { cache with store }.Settled uptime := fun store =>
    ⟨h.janitor.with_store store, h.retired⟩
  have hdiscard : cache.discard.Settled uptime :=
    ⟨fun station janitor hjanitor => h.letGo.janitor station janitor (by
      cases station <;> exact hjanitor), h.letGo.retired⟩
  cases command with
  | serve request => exact hstore _
  | serveEach callers => exact hstore _
  | reload path policy => exact hstore _
  | save path policy =>
      simp only [Cache.run]
      split <;> exact h
  | close => exact h.stop
  | discard => exact hdiscard
  | startJanitor interval onRuntime =>
      cases onRuntime with
      | false => exact h
      | true => exact h.letGo.hire (Janitor.settled_start cache.timer interval uptime turn)
  | releaseJanitor => exact h.letGo
  | _ => exact h

end Cache

namespace Session

variable {session : Session} {place : Nat} {post : Post}

def Settled (session : Session) : Prop :=
  ∀ place cache, session.kept? place = some cache → cache.Settled session.uptime

theorem Settled.janitor (h : session.Settled) {janitor : Janitor}
    (hjanitor : session.janitorAt? post = some janitor) : janitor.Settled session.uptime := by
  obtain ⟨cache, hkept, hin⟩ := janitorAt?_eq_some_iff.1 hjanitor
  exact (h post.place cache hkept).janitor post.station janitor hin

/-! ### Wakes -/

/-- Who still waits after a wake has slept through it. -/
theorem janitorAt?_wake_of_awaiting {janitor : Janitor}
    (h : session.wake.1.janitorAt? post = some janitor) (hawaiting : janitor.Awaiting) :
    session.janitorAt? post = some janitor := by
  cases hbefore : session.janitorAt? post with
  | none => exact absurd ((janitorAt?_wakeEach_of_none hbefore _).symm.trans h) (by simp)
  | some before =>
      obtain ⟨turn, lingers, hwoken⟩ := janitorAt?_wake hbefore
      obtain rfl := Option.some.inj (hwoken.symm.trans h)
      rw [Janitor.wake_of_awaiting hawaiting]

/-- Whoever runs after a wake ran before it. -/
theorem running_of_janitorAt?_wake {janitor : Janitor}
    (h : session.wake.1.janitorAt? post = some janitor) (hrunning : janitor.running) :
    ∃ before, session.janitorAt? post = some before ∧ before.running := by
  cases hbefore : session.janitorAt? post with
  | none => exact absurd ((janitorAt?_wakeEach_of_none hbefore _).symm.trans h) (by simp)
  | some before =>
      obtain ⟨turn, lingers, hwoken⟩ := janitorAt?_wake hbefore
      obtain rfl := Option.some.inj (hwoken.symm.trans h)
      exact ⟨before, rfl, Janitor.running_of_running_wake hrunning⟩

theorem Settled.wake_later (h : session.Settled) {clock : Clock} {uptime : Nat}
    (hle : session.uptime ≤ uptime) : { session with clock, uptime }.wake.1.Settled := by
  intro place cache hkept
  have hjanitorAt? : ∀ station, ({ session with clock, uptime } : Session).wake.1.janitorAt?
      ⟨place, station⟩ = cache.janitorAt? station := fun station => janitorAt?_of_kept? hkept
  rw [uptime_wake]
  refine ⟨fun station janitor hjanitor => ?_, fun index janitor hjanitor hrunning => ?_⟩
  · rw [← hjanitorAt?] at hjanitor
    refine ⟨not_dueAt_of_janitorAt?_wake hjanitor, fun hawaiting => ?_⟩
    have hbefore := janitorAt?_wake_of_awaiting hjanitor hawaiting
    have hold : session.janitorAt? ⟨place, station⟩ = some janitor := hbefore
    exact ((h.janitor hold).due_le hawaiting).trans hle
  · have hthere := (hjanitorAt? (.former index)).trans hjanitor
    obtain ⟨before, hbefore, hran⟩ := running_of_janitorAt?_wake hthere hrunning
    have hold : session.janitorAt? ⟨place, .former index⟩ = some before := hbefore
    obtain ⟨found, hfound, hin⟩ := janitorAt?_eq_some_iff.1 hold
    exact (h place found hfound).retired index before hin hran

/-! ### Commands, steps and plays -/

theorem Settled.ask (h : session.Settled) (place : Nat) (command : Command Payload) :
    (session.ask place command).2.1.Settled := by
  intro other later hlater
  rw [uptime_ask]
  have hrun := fun (cache : Cache Payload) (hcache : cache.Settled session.uptime) =>
    hcache.run session.turn session.clock session.disk command
  exact forall_kept?_ask h hrun place other later hlater

theorem Settled.append (h : session.Settled) {cache? : Option (Cache Payload)} (turn : Nat)
    (hcache : ∀ cache, cache? = some cache → cache.Settled session.uptime) :
    { session with turn, caches := session.caches ++ [cache?] }.Settled :=
  forall_kept?_append h hcache turn

theorem Settled.add (h : session.Settled) (member : Member) :
    (session.add member).2.1.Settled := by
  cases member with
  | bare =>
      refine h.append session.turn fun cache hcache => ?_
      exact Option.some.inj hcache ▸ Cache.settled_of_none rfl rfl
  | managed interval onRuntime =>
      cases onRuntime with
      | false =>
          exact h.append session.turn fun cache hcache =>
            (Option.some_ne_none cache hcache.symm).elim
      | true =>
          refine h.append (session.turn + 1) fun cache hcache => ?_
          have hbare : Cache.Settled ({ timer := session.timer, managed := true } : Cache Payload)
              session.uptime := Cache.settled_of_none rfl rfl
          exact Option.some.inj hcache ▸ hbare.hire (Janitor.settled_start _ interval _ _)

theorem invariant_settled : Invariant (fun _ _ => True) Settled where
  still h hcaches huptime := by
    intro place cache hkept
    rw [huptime]
    exact h place cache ((kept?_of_caches_eq hcaches place).symm.trans hkept)
  wake_later _ _ h hle := h.wake_later hle
  ask _ h := h.ask _ _
  add member h := h.add member

theorem Settled.play (h : session.Settled) (moves : List Move) :
    (session.play moves).1.Settled :=
  invariant_settled.play h fun move _ => move.allowed_of_any

theorem settled_outset (clock : Clock) (timer : Timer) (lingers : Nat → Nat) :
    Settled { clock, timer, lingers } :=
  fun _ cache hcache => (Option.some_ne_none cache hcache.symm).elim

end Session

namespace Roll

variable {roll : Roll} {number : Nat}

/-- Whoever has not had the first beat is in the millisecond of the start. -/
theorem milli_of_awaiting (hsettled : roll.session.Settled) {timer : Timer}
    {log : List Event} {janitor : Janitor} (hnumber : roll.janitor? number = some janitor)
    (hcareer : Janitor.Career timer none log (some janitor)) (hawaiting : janitor.Awaiting) :
    janitor.schedule.due % nanosPerMilli ≠ 0 ∧
      roll.session.uptime / nanosPerMilli = janitor.schedule.due / nanosPerMilli := by
  obtain ⟨post, -, hin⟩ := janitor?_eq_some_iff.1 hnumber
  refine ⟨?_, (hsettled.janitor hin).div_eq hawaiting⟩
  cases hcareer with
  | start interval now turn hlives =>
      obtain ⟨hdue, hmilli⟩ := hlives.due_of_awaiting hawaiting
      rwa [hdue]
  | stint hstint => cases hstint

end Roll

end ExpiringCache
