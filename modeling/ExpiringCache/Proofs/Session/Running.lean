import ExpiringCache.Proofs.Session.Jump
import ExpiringCache.Proofs.Session.RollCall
/-!
# Running janitors

A running janitor changes when the session wakes, and in no other way.
`Roll.Faithful.wake_of_number` finds a janitor on the roll after a wake, with the sweeps it has
signed; every other operation leaves whoever still runs as it was and adds no sweep.
-/

namespace ExpiringCache

open Log

/-! ### Who sweeps -/

theorem Janitor.countP_intervalWarnings (interval : Duration) :
    (intervalWarnings interval).countP Event.isSweep = 0 := by
  unfold intervalWarnings
  split <;> rfl

namespace Cache

variable {ν : Type}

theorem countP_stopEvents (cache : Cache ν) : cache.stopEvents.countP Event.isSweep = 0 := by
  unfold stopEvents
  cases cache.janitor? with
  | none => rfl
  | some janitor => exact countP_farewell _ _

theorem countP_run [SnapshotText ν] (cache : Cache ν) (now turn : Nat) (clock : Clock)
    (disk : Disk) (command : Command ν) :
    (cache.run now turn clock disk command).log.countP Event.isSweep = 0 := by
  cases command with
  | save path policy =>
      simp only [run]
      split <;> rfl
  | reload path policy =>
      simp only [run, Store.reload]
      split
      · rfl
      · split <;> rfl
  | close =>
      have hannounced : (if cache.managed && cache.running then [Event.cacheClosing] else []).countP
          Event.isSweep = 0 := by split <;> rfl
      simp only [run, List.countP_append, hannounced, countP_stopEvents]
  | discard => exact cache.countP_stopEvents
  | releaseJanitor => exact cache.countP_stopEvents
  | startJanitor interval onRuntime =>
      cases onRuntime with
      | false => exact Janitor.countP_intervalWarnings interval
      | true =>
          change (Janitor.intervalWarnings interval ++
            .janitorStarted _ :: cache.stopEvents).countP Event.isSweep = 0
          rw [List.countP_append, Janitor.countP_intervalWarnings, Nat.zero_add]
          exact (List.countP_cons_of_neg Bool.false_ne_true).trans cache.countP_stopEvents
  | _ => rfl

/-- Whoever runs after a command ran before it, unless it is the janitor that the command starts. -/
theorem janitor?_of_run [SnapshotText ν] {cache : Cache ν} {now turn : Nat} {clock : Clock}
    {disk : Disk} {command : Command ν} {janitor : Janitor}
    (h : ((cache.run now turn clock disk command).cache?.getD cache.discard).janitor? =
      some janitor)
    (hrunning : janitor.running) (hstart : ∀ interval, command ≠ .startJanitor interval true) :
    cache.janitor? = some janitor := by
  cases command with
  | save path policy =>
      simp only [run] at h
      split at h <;> exact h
  | close =>
      obtain ⟨before, -, rfl⟩ := Option.map_eq_some_iff.1 h
      exact absurd hrunning before.not_running_stop
  | discard => exact (Option.some_ne_none janitor h.symm).elim
  | releaseJanitor => exact (Option.some_ne_none janitor h.symm).elim
  | startJanitor interval onRuntime =>
      cases onRuntime with
      | false => exact h
      | true => exact absurd rfl (hstart interval)
  | _ => exact h

end Cache

namespace Session

theorem countP_ask (session : Session) (place : Nat) (command : Command Payload) :
    (session.ask place command).2.2.countP Event.isSweep = 0 := by
  cases hcache : session.cache? place with
  | none =>
      rw [ask_of_none hcache]
      rfl
  | some cache =>
      rw [log_ask hcache]
      exact cache.countP_run _ _ _ _ _

theorem uptime_add (session : Session) (member : Member) :
    (session.add member).2.1.uptime = session.uptime := by
  cases member with
  | bare => rfl
  | managed interval onRuntime => cases onRuntime <;> rfl

theorem janitorAt?_add {session : Session} {post : Post} (h : (session.janitorAt? post).isSome)
    (member : Member) : (session.add member).2.1.janitorAt? post = session.janitorAt? post := by
  have hne : post.place ≠ session.caches.length := by
    intro hplace
    have hnobody := session.janitorAt?_length_caches post.station
    rw [← hplace] at hnobody
    exact absurd (h.symm.trans (congrArg Option.isSome hnobody)) (by decide)
  cases member with
  | bare => exact janitorAt?_append_of_ne hne _ _
  | managed interval onRuntime =>
      cases onRuntime with
      | false => exact janitorAt?_append_of_ne hne _ _
      | true => exact janitorAt?_append_of_ne hne _ _

theorem countP_add (session : Session) (member : Member) :
    (session.add member).2.2.countP Event.isSweep = 0 := by
  cases member with
  | bare => rfl
  | managed interval onRuntime =>
      cases onRuntime with
      | false => rfl
      | true =>
          change (Janitor.intervalWarnings interval ++ _).countP Event.isSweep = 0
          rw [List.countP_append, Janitor.countP_intervalWarnings]
          rfl

end Session

namespace Roll

variable {roll later : Roll} {place number : Nat} {post : Post} {janitor next : Janitor}
  {session : Session} {log : List Event}

/-! ### Signed sweeps -/

theorem countP_ofCaller_signed (number : Nat) (number? : Option Nat) (log : List Event) :
    (ofCaller number (signed number? log)).countP Event.isSweep =
      if number? = some number then log.countP Event.isSweep else 0 := by
  rw [ofCaller_signed]
  split
  · rw [List.countP_filter]
    refine List.countP_congr fun event _ => ?_
    cases event <;> simp [Event.isSweep, Event.isOfJanitor]
  · rfl

theorem Attends.countP_le {after : Roll × List (Nat × Event)} {plain : Session × List Event}
    (h : roll.Attends after plain) (number : Nat) :
    (ofCaller number after.2).countP Event.isSweep ≤ plain.2.countP Event.isSweep := by
  calc (ofCaller number after.2).countP Event.isSweep
      ≤ (after.2.map Prod.snd).countP Event.isSweep :=
        (List.filter_sublist.map Prod.snd).countP_le
    _ = (plain.2.filter Event.isOfJanitor).countP Event.isSweep := by rw [h.told]
    _ ≤ plain.2.countP Event.isSweep := List.filter_sublist.countP_le

/-! ### One wake -/

theorem posts_wakeEach (roll : Roll) (order : List Post) :
    (roll.wakeEach order).1.posts = roll.posts := by
  induction order generalizing roll with
  | nil => rfl
  | cons head rest ih => exact ih (roll.wakeAt head).1

theorem Faithful.wakeEach_of_post (h : roll.Faithful) (hpost : roll.posts[number]? = some post)
    (hjanitor : roll.session.janitorAt? post = some janitor) {order : List Post}
    (hturn : post ∈ order ∨ ¬janitor.DueAt roll.session.uptime) :
    ∃ turn lingers,
      (roll.wakeEach order).1.session.janitorAt? post =
        some (janitor.wake roll.session.uptime turn lingers).2 ∧
      (ofCaller number (roll.wakeEach order).2).countP Event.isSweep =
        (janitor.wake roll.session.uptime turn lingers).1 := by
  induction order generalizing roll janitor with
  | nil =>
      have hrests := Janitor.wake_of_not_dueAt (hturn.resolve_left List.not_mem_nil) 0 0
      exact ⟨0, 0, by rw [hrests]; exact hjanitor, by rw [hrests]; rfl⟩
  | cons head rest ih =>
      have hfaithful := (h.wakeAt head).follows.faithful
      have hposted : (roll.wakeAt head).1.posts[number]? = some post := hpost
      have huptime : (roll.wakeAt head).1.session.uptime = roll.session.uptime :=
        roll.session.uptime_wakeAt head
      have hlog : (roll.wakeEach (head :: rest)).2 =
          signed (roll.number? head) (roll.session.wakeAt head).2 ++
            ((roll.wakeAt head).1.wakeEach rest).2 := rfl
      rw [hlog, ofCaller_append, List.countP_append, countP_ofCaller_signed]
      by_cases hhead : head = post
      · -- Its turn has come; the turns that the rest may give it find nothing due.
        subst hhead
        have hrests := janitor.not_dueAt_wake roll.session.uptime roll.session.turn
          (roll.session.lingers roll.session.turn)
        have hwoken : (roll.wakeAt head).1.session.janitorAt? head = _ :=
          Session.janitorAt?_wakeAt_self hjanitor
        obtain ⟨turn, lingers, hlater, hcount⟩ :=
          ih hfaithful hposted hwoken (Or.inr (by rwa [huptime]))
        rw [huptime, Janitor.wake_of_not_dueAt hrests] at hlater hcount
        refine ⟨roll.session.turn, roll.session.lingers roll.session.turn, hlater, ?_⟩
        rw [if_pos (h.number?_eq_some_iff.2 hpost), Session.countP_wakeAt hjanitor, hcount,
          Janitor.fst_wake, Nat.add_zero]
      · have hnumber : roll.number? head ≠ some number := fun heq =>
          hhead (Option.some.inj ((h.number?_eq_some_iff.1 heq).symm.trans hpost))
        have hsame : (roll.wakeAt head).1.session.janitorAt? post = some janitor :=
          (Session.janitorAt?_wakeAt_of_ne hhead).trans hjanitor
        obtain ⟨turn, lingers, hlater, hcount⟩ := ih hfaithful hposted hsame (by
          rw [huptime]
          exact hturn.imp_left (List.mem_of_ne_of_mem (Ne.symm hhead)))
        rw [huptime] at hlater hcount
        refine ⟨turn, lingers, hlater, ?_⟩
        rw [if_neg hnumber, Nat.zero_add, hcount]

/-- A janitor does what is due, and signs its sweeps. -/
theorem Faithful.wake_of_number (h : roll.Faithful)
    (hnumber : roll.janitor? number = some janitor) :
    ∃ turn lingers,
      roll.wake.1.janitor? number = some (janitor.wake roll.session.uptime turn lingers).2 ∧
      (ofCaller number roll.wake.2).countP Event.isSweep =
        (janitor.wake roll.session.uptime turn lingers).1 := by
  obtain ⟨post, hpost, hjanitor⟩ := janitor?_eq_some_iff.1 hnumber
  obtain ⟨turn, lingers, hwoken, hcount⟩ :=
    h.wakeEach_of_post hpost hjanitor (Session.mem_wakeOrder_or_rests hjanitor)
  have hposted : roll.wake.1.posts[number]? = some post := by
    change (roll.wakeEach roll.session.wakeOrder).1.posts[number]? = some post
    rw [posts_wakeEach, hpost]
  exact ⟨turn, lingers, (janitor?_of_posts hposted).trans hwoken, hcount⟩

/-! ### Everything else -/

theorem Faithful.janitor?_isSome_iff (h : roll.Faithful) :
    (roll.janitor? number).isSome ↔ number < roll.posts.length := by
  refine ⟨fun hsome => ?_, fun hlt => ?_⟩
  · obtain ⟨janitor, hjanitor⟩ := Option.isSome_iff_exists.1 hsome
    obtain ⟨post, hpost, -⟩ := janitor?_eq_some_iff.1 hjanitor
    exact (List.getElem?_eq_some_iff.1 hpost).1
  · obtain ⟨janitor, -, hjanitor⟩ := h.exists_janitor (List.getElem?_eq_getElem hlt)
    exact Option.isSome_iff_exists.2 ⟨janitor, hjanitor⟩

theorem Follows.of_running {log : List (Nat × Event)} (h : roll.Follows later log)
    (hbefore : (roll.janitor? number).isSome) (hnext : later.janitor? number = some next)
    (hrunning : next.running) :
    ∃ janitor, roll.janitor? number = some janitor ∧ janitor.running ∧
      Janitor.Lives janitor (ofCaller number log) next := by
  obtain ⟨janitor, hjanitor⟩ := Option.isSome_iff_exists.1 hbefore
  have hcareer := h.career number
  rw [hjanitor] at hcareer
  obtain ⟨last, hlast, hlives⟩ := hcareer.lives
  obtain rfl := Option.some.inj (hlast.symm.trans hnext)
  refine ⟨janitor, hjanitor, ?_, hlives⟩
  by_contra hidle
  exact (hlives.leaves hidle).not_running hidle hrunning

theorem Follows.isSome_janitor? {log : List (Nat × Event)} (h : roll.Follows later log)
    (hbefore : (roll.janitor? number).isSome) : (later.janitor? number).isSome := by
  obtain ⟨janitor, hjanitor⟩ := Option.isSome_iff_exists.1 hbefore
  have hcareer := h.career number
  rw [hjanitor] at hcareer
  obtain ⟨last, hlast, -⟩ := hcareer.lives
  exact Option.isSome_iff_exists.2 ⟨last, hlast⟩

/-- Whoever runs after janitors have moved is as it was, if that holds of the one that may have
changed. -/
theorem Moves.of_running {move : Post → Post} (h : roll.Moves move post session log)
    (hsame : ∀ next, session.janitorAt? (move post) = some next → next.running →
      roll.session.janitorAt? post = some next)
    (hnext : Roll.janitor? { session, posts := roll.posts.map move } number = some next)
    (hrunning : next.running) : roll.janitor? number = some next := by
  obtain ⟨_, hmoved, hin⟩ := janitor?_eq_some_iff.1 hnext
  rw [List.getElem?_map] at hmoved
  obtain ⟨found, hfound, rfl⟩ := Option.map_eq_some_iff.1 hmoved
  rw [janitor?_of_posts hfound]
  by_cases hpost : found = post
  · subst hpost
    exact hsame next hin hrunning
  · rw [← h.others found (List.mem_of_getElem? hfound) hpost]
    exact hin

theorem Faithful.goes_of_running (h : roll.Faithful) {cache : Cache Payload}
    (hcache : roll.session.cache? place = some cache) {command : Command Payload}
    (hgoes : command = .discard ∨ command = .releaseJanitor)
    (hnext : (roll.ask place command).1.janitor? number = some next) (hrunning : next.running) :
    roll.janitor? number = some next := by
  rw [ask_of_goes hcache hgoes] at hnext
  refine (h.moves_of_goes hcache hgoes).of_running (fun later hlater hran => ?_) hnext hrunning
  have hmoved : Post.moved place cache.former.length ⟨place, .resident⟩ =
      ⟨place, Station.resident.moved cache.former.length⟩ := if_pos rfl
  rw [hmoved, Session.janitorAt?_ask_of_goes hcache hgoes,
    cache.janitorAt?_letGo_moved_resident] at hlater
  obtain ⟨before, -, rfl⟩ := Option.map_eq_some_iff.1 hlater
  exact absurd hran before.not_running_stop

theorem Faithful.janitor?_ask_startJanitor (h : roll.Faithful) {cache : Cache Payload}
    (hcache : roll.session.cache? place = some cache) (interval : Duration)
    (hlt : number < roll.posts.length) :
    (roll.ask place (.startJanitor interval true)).1.janitor? number =
      (roll.ask place .releaseJanitor).1.janitor? number := by
  have hletGo := (h.attends_of_goes hcache (Or.inr rfl)).follows.faithful
  have hgone := Session.janitorAt?_ask_of_goes hcache (Or.inr rfl) .resident
  rw [ask_of_goes hcache (Or.inr rfl)] at hletGo ⊢
  rw [ask_startJanitor_eq hcache]
  have hbound : number < (roll.posts.map (Post.moved place cache.former.length)).length := by
    rwa [List.length_map]
  obtain ⟨found, hfound⟩ : ∃ found,
      (roll.posts.map (Post.moved place cache.former.length))[number]? = some found :=
    ⟨_, List.getElem?_eq_getElem hbound⟩
  have hmem := List.mem_of_getElem? hfound
  have hother : found ≠ ⟨place, .resident⟩ := by
    rintro rfl
    have hsome := (hletGo.mem_iff _).1 hmem
    exact absurd ((congrArg Option.isSome hgone).symm.trans hsome) Bool.false_ne_true
  have hlater : (roll.posts.map (Post.moved place cache.former.length) ++
      [⟨place, .resident⟩])[number]? = some found :=
    (List.getElem?_append_left hbound).trans hfound
  have hbefore : Roll.janitor? { session := (roll.session.ask place .releaseJanitor).2.1
                                 posts := roll.posts.map (Post.moved place cache.former.length) }
      number = (roll.session.ask place .releaseJanitor).2.1.janitorAt? found :=
    janitor?_of_posts hfound
  refine (janitor?_of_posts hlater).trans (Eq.trans ?_ hbefore.symm)
  exact Session.janitorAt?_ask_startJanitor_of_ne hcache interval hother

/-- Whoever runs after a command is as it was, unless the command started it. -/
theorem Faithful.ask_of_running (h : roll.Faithful) {command : Command Payload}
    (hlt : number < roll.posts.length)
    (hnext : (roll.ask place command).1.janitor? number = some next)
    (hrunning : next.running) : roll.janitor? number = some next := by
  cases hcache : roll.session.cache? place with
  | none => rwa [ask_eq_of_none hcache] at hnext
  | some cache =>
      have hstays : command.StaysBy → roll.janitor? number = some next := fun hstays => by
        rw [ask_eq_of_staysBy hcache hstays] at hnext
        refine ((h.stays_of_staysBy hcache hstays).moves h).of_running (fun later hlater hran => ?_)
          (by rwa [List.map_id]) hrunning
        rw [Session.janitorAt?_of_cache? hcache]
        have hin := (Session.janitorAt?_of_kept? (Session.kept?_ask_self hcache command)).symm.trans
          hlater
        refine Cache.janitor?_of_run hin hran fun interval hstart => ?_
        subst hstart
        exact hstays
      cases command with
      | startJanitor interval onRuntime =>
          cases onRuntime with
          | true =>
              rw [h.janitor?_ask_startJanitor hcache interval hlt] at hnext
              exact h.goes_of_running hcache (Or.inr rfl) hnext hrunning
          | false => exact hstays trivial
      | discard => exact h.goes_of_running hcache (Or.inl rfl) hnext hrunning
      | releaseJanitor => exact h.goes_of_running hcache (Or.inr rfl) hnext hrunning
      | _ => exact hstays trivial

theorem Faithful.janitor?_add_of_lt (h : roll.Faithful) (hlt : number < roll.posts.length)
    (member : Member) : (roll.add member).1.janitor? number = roll.janitor? number := by
  have hpost : roll.posts[number]? = some roll.posts[number] := List.getElem?_eq_getElem hlt
  have hsome := (h.mem_iff _).1 (List.getElem_mem hlt)
  have hadd : (roll.add member).1.posts[number]? = some roll.posts[number] := by
    cases member with
    | bare => exact hpost
    | managed interval onRuntime =>
        cases onRuntime with
        | false => exact hpost
        | true => exact (List.getElem?_append_left hlt).trans hpost
  rw [janitor?_of_posts hpost, janitor?_of_posts hadd, (h.add member).session_eq]
  exact Session.janitorAt?_add hsome member

end Roll

end ExpiringCache
