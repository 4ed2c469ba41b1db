import ExpiringCache.Proofs.Cache.Course
import ExpiringCache.Proofs.Session.Invariant
/-!
# What a session can come to

A session begins without caches; members are added and steps taken in any order. What a step does
to a cache is an occasion for it, so what holds of every new cache and what no occasion takes away
holds of every cache of a session that was reached. Two instances: some course leads to the cache
from an empty store, and its janitor has what every janitor has from its start on.
-/

namespace ExpiringCache

/-- Every new cache has the property, and no occasion takes it away. -/
structure Cache.Lasting (property : Cache Payload → Prop) : Prop where
  bare : ∀ timer, property { timer }
  create : ∀ timer interval uptime turn, property (.create timer interval uptime turn)
  after : ∀ (cache later : Cache Payload) occasion, property cache →
    cache.after? occasion = some later → property later

namespace Session

variable {property : Cache Payload → Prop} {session : Session}

/-- A session that steps and new members lead to, from any clock, with any timer, whatever is left
to chance. -/
inductive Reached : Session → Prop
  | outset (clock : Clock) (timer : Timer) (lingers : Nat → Nat) :
      Reached { clock, timer, lingers }
  | add {session : Session} (member : Member) (h : Reached session) :
      Reached (session.add member).2.1
  | next {session : Session} (step : Step) (h : Reached session) : Reached (session.next step)

theorem Reached.advance (h : session.Reached) (elapsed : Duration) :
    (session.advance elapsed).1.Reached :=
  h.next (.advance elapsed)

def HasCaches (property : Cache Payload → Prop) (session : Session) : Prop :=
  ∀ place cache, session.cache? place = some cache → property cache

/-- What is an occasion for one cache and leaves the others alone takes the property from none. -/
theorem HasCaches.of_occasion (h : session.HasCaches property) (hlasting : Cache.Lasting property)
    {after : Session} {place : Nat} (occasion : Occasion Payload)
    (hothers : ∀ {other}, place ≠ other → after.cache? other = session.cache? other)
    (hnone : session.cache? place = none → after.cache? place = none)
    (hself : ∀ {cache}, session.cache? place = some cache →
      after.cache? place = cache.after? occasion) : after.HasCaches property := by
  intro other later hlater
  by_cases hother : place = other
  · subst hother
    cases hcache : session.cache? place with
    | none => exact (Option.some_ne_none later (hlater.symm.trans (hnone hcache))).elim
    | some cache =>
        rw [hself hcache] at hlater
        exact hlasting.after cache later occasion (h place cache hcache) hlater
  · rw [hothers hother] at hlater
    exact h other later hlater

theorem HasCaches.wakeAt (h : session.HasCaches property) (hlasting : Cache.Lasting property)
    (post : Post) : (session.wakeAt post).1.HasCaches property := by
  apply h.of_occasion hlasting (.wake post.station session.uptime session.turn
    (session.lingers session.turn) session.clock)
  · exact cache?_wakeAt_of_ne
  · exact cache?_wakeAt_of_none
  · exact cache?_wakeAt_self

theorem HasCaches.ask (h : session.HasCaches property) (hlasting : Cache.Lasting property)
    (place : Nat) (command : Command Payload) :
    (session.ask place command).2.1.HasCaches property := by
  apply h.of_occasion hlasting
    (.command session.uptime session.turn session.clock session.disk command)
  · intro other hother
    exact cache?_ask_of_ne hother command
  · intro hnone
    rwa [ask_of_none hnone]
  · intro cache hcache
    exact cache?_ask_self hcache command

theorem HasCaches.append (h : session.HasCaches property) {cache? : Option (Cache Payload)}
    (hcache : ∀ cache, cache? = some cache → property cache) (turn : Nat) :
    { session with turn, caches := session.caches ++ [cache?] }.HasCaches property := by
  intro place cache hplace
  obtain ⟨hkept, hthere⟩ := cache?_eq_some_iff.1 hplace
  have hold : ∀ place cache, session.kept? place = some cache → cache.discarded = false →
      property cache :=
    fun place cache hkept hthere => h place cache (cache?_eq_some_iff.2 ⟨hkept, hthere⟩)
  exact forall_kept?_append hold (fun cache heq _ => hcache cache heq) turn place cache hkept hthere

theorem HasCaches.add (h : session.HasCaches property) (hlasting : Cache.Lasting property)
    (member : Member) : (session.add member).2.1.HasCaches property := by
  cases member with
  | bare =>
      refine h.append (fun cache hcache => ?_) _
      obtain rfl := Option.some.inj hcache
      exact hlasting.bare _
  | managed interval onRuntime =>
      cases onRuntime with
      | false => exact h.append (fun cache hcache => (Option.some_ne_none cache hcache.symm).elim) _
      | true =>
          refine h.append (fun cache hcache => ?_) _
          obtain rfl := Option.some.inj hcache
          exact hlasting.create _ interval _ _

theorem invariant_hasCaches (hlasting : Cache.Lasting property) :
    Invariant (fun _ _ => True) (HasCaches property) := by
  refine .of_wakeAt ?_ (fun post h => h.wakeAt hlasting post)
    (fun _ h => h.ask hlasting _ _) fun member h => h.add hlasting member
  intro session later h hcaches place cache hcache
  exact h place cache ((cache?_of_caches_eq hcaches place).symm.trans hcache)

/-- What lasts from the beginning of a cache on holds of the caches of every session reached. -/
theorem Reached.hasCaches (h : session.Reached) (hlasting : Cache.Lasting property) :
    session.HasCaches property := by
  induction h with
  | outset clock timer lingers =>
      intro place cache hcache
      exact (Option.some_ne_none cache hcache.symm).elim
  | add member _ ih => exact ih.add hlasting member
  | next step _ ih => exact (invariant_hasCaches hlasting).take ih step.allowed_of_any

end Session

/-! ### Courses -/

/-- Some course leads from an empty store to the cache. -/
def Cache.HasCourse (cache : Cache Payload) : Prop :=
  ∃ (janitor? : Option Janitor) (timer : Timer) (managed : Bool)
    (occasions : List (Occasion Payload)),
    ∀ more, ({ janitor?, timer, managed } : Cache Payload).follow (occasions ++ more) =
      cache.follow more

theorem Cache.lasting_hasCourse : Cache.Lasting Cache.HasCourse where
  bare timer := ⟨none, timer, false, [], fun _ => rfl⟩
  create timer interval uptime turn :=
    ⟨some (.start timer interval uptime turn), timer, true, [], fun _ => rfl⟩
  after := by
    rintro cache later occasion ⟨janitor?, timer, managed, occasions, hfollow⟩ hlater
    refine ⟨janitor?, timer, managed, occasions ++ [occasion], fun more => ?_⟩
    rw [List.append_assoc, hfollow]
    simp only [List.cons_append, List.nil_append, Cache.follow, hlater]

/-- The courses of caches take in whatever sessions do. -/
theorem Session.Reached.exists_course {session : Session} (h : session.Reached) {place : Nat}
    {cache : Cache Payload} (hcache : session.cache? place = some cache) :
    ∃ (janitor? : Option Janitor) (timer : Timer) (managed : Bool)
      (occasions : List (Occasion Payload)),
      ({ janitor?, timer, managed } : Cache Payload).follow occasions = cache := by
  obtain ⟨janitor?, timer, managed, occasions, hfollow⟩ :=
    h.hasCaches Cache.lasting_hasCourse place cache hcache
  refine ⟨janitor?, timer, managed, occasions, ?_⟩
  have hend := hfollow []
  rwa [List.append_nil] at hend

/-! ### Janitors -/

/-- Every janitor starts with the property and keeps it. -/
structure Janitor.Lasting (property : Janitor → Prop) : Prop where
  start : ∀ timer interval now turn, property (.start timer interval now turn)
  wake : ∀ (janitor : Janitor) now turn lingers, property janitor →
    property (janitor.wake now turn lingers).2
  stop : ∀ janitor : Janitor, property janitor → property janitor.stop

namespace Cache

variable {property : Janitor → Prop} {cache : Cache Payload}

theorem HasJanitors.wake (h : cache.HasJanitors property) (hlasting : Janitor.Lasting property)
    (station : Station) (now turn lingers : Nat) (clock : Clock) :
    (cache.wake station now turn lingers clock).1.HasJanitors property := by
  cases hjanitor : cache.janitorAt? station with
  | none =>
      rw [wake_of_none hjanitor]
      exact h
  | some janitor =>
      intro other later hlater
      by_cases hother : station = other
      · subst hother
        rw [janitorAt?_wake_self hjanitor] at hlater
        obtain rfl := Option.some.inj hlater
        exact hlasting.wake janitor now turn lingers (h station janitor hjanitor)
      · rw [janitorAt?_wake_of_ne hother] at hlater
        exact h other later hlater

theorem HasJanitors.run (h : cache.HasJanitors property) (hlasting : Janitor.Lasting property)
    (now turn : Nat) (clock : Clock) (disk : Disk) (command : Command Payload)
    {later : Cache Payload} (hlater : (cache.run now turn clock disk command).cache? = some later) :
    later.HasJanitors property := by
  have hletGo := h.letGo hlasting.stop
  cases command with
  | serve request => exact Option.some.inj hlater ▸ h.with_store _
  | serveEach callers => exact Option.some.inj hlater ▸ h.with_store _
  | reload path policy => exact Option.some.inj hlater ▸ h.with_store _
  | save path policy =>
      simp only [Cache.run] at hlater
      split at hlater <;> exact Option.some.inj hlater ▸ h
  | close => exact Option.some.inj hlater ▸ h.stop hlasting.stop
  | discard => exact (Option.some_ne_none later hlater.symm).elim
  | startJanitor interval onRuntime =>
      cases onRuntime with
      | false => exact Option.some.inj hlater ▸ h
      | true =>
          obtain rfl := Option.some.inj hlater
          exact hletGo.hire (hlasting.start cache.timer interval now turn)
  | releaseJanitor => exact Option.some.inj hlater ▸ hletGo
  | _ => exact Option.some.inj hlater ▸ h

theorem lasting_hasJanitors (hlasting : Janitor.Lasting property) :
    Lasting (HasJanitors property) where
  bare timer := hasJanitors_of_none rfl rfl
  create timer interval uptime turn := by
    have hbare : ({ timer, managed := true } : Cache Payload).HasJanitors property :=
      hasJanitors_of_none rfl rfl
    exact hbare.hire (hlasting.start timer interval uptime turn)
  after := by
    intro cache later occasion h hlater
    cases occasion with
    | command uptime turn clock disk asked =>
        exact h.run hlasting uptime turn clock disk asked hlater
    | wake station uptime turn lingers clock =>
        exact Option.some.inj hlater ▸ h.wake hlasting station uptime turn lingers clock

end Cache

end ExpiringCache
