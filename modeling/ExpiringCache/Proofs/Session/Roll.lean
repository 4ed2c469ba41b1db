import ExpiringCache.Proofs.Janitor.Life
import ExpiringCache.Proofs.Session.Invariant
import ExpiringCache.Proofs.Store.Interleaving
/-!
# The roll of the janitors

A session knows its janitors by where they are, and a janitor that is let go moves. The roll beside
it gives every janitor a number as it starts, keeps the post of each, and signs what they log. It
asks the session itself for everything else, and its log without the numbers is what the log of the
session says of janitors.

`Follows` is what one operation leaves: the posts are still those of the janitors of the session,
and each janitor has had a career that agrees with what it signed meanwhile. Operations follow one
another, so a whole play does the same. An operation moves janitors, at most one of them changes,
and then at most one starts: `Moves.follows` and `Faithful.follows_hire`.
-/

namespace ExpiringCache

open Log

def Log.Event.isOfJanitor : Event → Bool
  | .janitorStarted _ | .swept _ | .janitorStopped => true
  | _ => false

/-- What the janitor at a post goes through between two moments, if there is one. -/
inductive Janitor.Stint : Option Janitor → List Event → Option Janitor → Prop where
  | nobody : Stint none [] none
  | somebody {first last : Janitor} {log : List Event} (h : Lives first log last) :
    Stint (some first) log (some last)

/-- What a janitor goes through between two moments; `none` stands before its start. -/
inductive Janitor.Career (timer : Timer) :
    Option Janitor → List Event → Option Janitor → Prop where
  | start (interval : Duration) (now turn : Nat) {log : List Event} {last : Janitor}
    (h : Lives (start timer interval now turn) log last) :
    Career timer none (.janitorStarted (effectiveInterval interval) :: log) (some last)
  | stint {first? last? : Option Janitor} {log : List Event} (h : Stint first? log last?) :
    Career timer first? log last?

namespace Janitor

variable {timer : Timer} {first? last? third? : Option Janitor} {log later : List Event}

theorem stint_rest (janitor? : Option Janitor) : Stint janitor? [] janitor? := by
  cases janitor? with
  | none => exact .nobody
  | some janitor => exact .somebody .rest

theorem Stint.log_eq_nil (h : Stint first? log last?) (hnobody : first? = none) : log = [] := by
  cases h with
  | nobody => rfl
  | somebody _ => exact (Option.some_ne_none _ hnobody).elim

theorem Stint.isSome_iff (h : Stint first? log last?) : last?.isSome ↔ first?.isSome := by
  cases h with
  | nobody => exact Iff.rfl
  | somebody _ => exact iff_of_true rfl rfl

theorem career_rest (timer : Timer) (janitor? : Option Janitor) :
    Career timer janitor? [] janitor? :=
  .stint (stint_rest janitor?)

theorem Career.trans (h : Career timer first? log last?) (h' : Career timer last? later third?) :
    Career timer first? (log ++ later) third? := by
  cases h with
  | start interval now turn h =>
      cases h' with
      | stint h' =>
          cases h' with
          | somebody h' => exact .start interval now turn (h.trans h')
  | stint h =>
      cases h with
      | nobody => exact h'
      | somebody h =>
          cases h' with
          | stint h' =>
              cases h' with
              | somebody h' => exact .stint (.somebody (h.trans h'))

theorem Career.lives {first : Janitor} (h : Career timer (some first) log last?) :
    ∃ last, last? = some last ∧ Lives first log last := by
  cases h with
  | stint h =>
      cases h with
      | somebody h => exact ⟨_, rfl, h⟩

end Janitor

/-- Where a janitor is once the place has let its resident one go, behind so many others. -/
def Post.moved (place behind : Nat) (post : Post) : Post :=
  if post.place = place then { post with station := post.station.moved behind } else post

structure Roll where
  session : Session
  /-- The post of every janitor, by its number. -/
  posts : List Post := []

namespace Roll

def outset (clock : Clock) (timer : Timer) (lingers : Nat → Nat) : Roll :=
  { session := { clock, timer, lingers } }

def janitor? (roll : Roll) (number : Nat) : Option Janitor :=
  roll.posts[number]?.bind roll.session.janitorAt?

/-- The number of the janitor at a post. -/
def number? (roll : Roll) (post : Post) : Option Nat := roll.posts.idxOf? post

/-- What a log says of janitors, signed with a number. -/
def signed (number? : Option Nat) (log : List Event) : List (Nat × Event) :=
  number?.elim [] fun number => (log.filter Event.isOfJanitor).map fun event => (number, event)

/-! ### The operations of a session -/

def add (roll : Roll) (member : Member) : Roll × List (Nat × Event) :=
  let (_, session, log) := roll.session.add member
  match member with
  | .managed _ true =>
    ({ session, posts := roll.posts ++ [⟨roll.session.caches.length, .resident⟩] },
      signed (some roll.posts.length) log)
  | _ => ({ roll with session }, [])

def wakeAt (roll : Roll) (post : Post) : Roll × List (Nat × Event) :=
  let (session, log) := roll.session.wakeAt post
  ({ roll with session }, signed (roll.number? post) log)

def wakeEach (roll : Roll) : List Post → Roll × List (Nat × Event)
  | [] => (roll, [])
  | post :: rest =>
    let (roll, log) := roll.wakeAt post
    let (roll, later) := roll.wakeEach rest
    (roll, log ++ later)

def wake (roll : Roll) : Roll × List (Nat × Event) := roll.wakeEach roll.session.wakeOrder

def advance (roll : Roll) (elapsed : Duration) : Roll × List (Nat × Event) :=
  wake { roll with session := roll.session.pass elapsed }

def elapse (roll : Roll) : Nat → Roll × List (Nat × Event)
  | 0 => (roll, [])
  | millis + 1 =>
    let (roll, log) := roll.advance { seconds := 0, nanos := nanosPerMilli }
    let (roll, later) := roll.elapse millis
    (roll, log ++ later)

def ask (roll : Roll) (place : Nat) (command : Command Payload) : Roll × List (Nat × Event) :=
  let resident := roll.number? ⟨place, .resident⟩
  let (_, session, log) := roll.session.ask place command
  match roll.session.cache? place, command with
  | some cache, .startJanitor interval true =>
    ({ session
       posts := roll.posts.map (Post.moved place cache.former.length) ++ [⟨place, .resident⟩] },
      signed (some roll.posts.length) [.janitorStarted (Janitor.effectiveInterval interval)] ++
        signed resident cache.stopEvents)
  | some cache, .discard | some cache, .releaseJanitor =>
    ({ session, posts := roll.posts.map (Post.moved place cache.former.length) },
      signed resident log)
  | _, _ => ({ roll with session }, signed resident log)

def shutDownJanitor (roll : Roll) (place : Nat) : Roll × List (Nat × Event) :=
  let waits := (roll.session.cache? place).any fun cache =>
    cache.stop.janitor?.any fun janitor => janitor.phase ≠ .stopped
  let (roll, log) := roll.ask place .releaseJanitor
  if waits then
    let (roll, later) :=
      wake { roll with
        session := { roll.session with uptime := roll.session.uptime + nanosPerMilli } }
    (roll, log ++ later)
  else (roll, log)

def take (roll : Roll) : Step → Roll × List (Nat × Event)
  | .advance elapsed => roll.advance elapsed
  | .elapse millis => roll.elapse millis
  | .command place command => roll.ask place command
  | .shutDownJanitor place => roll.shutDownJanitor place
  | step => ({ roll with session := roll.session.next step }, [])

def play (roll : Roll) : List Session.Move → Roll × List (Nat × Event)
  | [] => (roll, [])
  | move :: rest =>
    let (roll, log) := match move with
      | .add member => roll.add member
      | .take step => roll.take step
    let (roll, later) := roll.play rest
    (roll, log ++ later)

theorem play_append (roll : Roll) (moves more : List Session.Move) :
    roll.play (moves ++ more) =
      (((roll.play moves).1.play more).1,
        (roll.play moves).2 ++ ((roll.play moves).1.play more).2) := by
  induction moves generalizing roll with
  | nil => rfl
  | cons move rest ih => simp only [List.cons_append, play, ih, List.append_assoc]

/-! ### Signed logs -/

variable {roll later : Roll} {post : Post} {number : Nat} {session : Session} {log : List Event}

theorem ofCaller_signed (number : Nat) (number? : Option Nat) (log : List Event) :
    ofCaller number (signed number? log) =
      if number? = some number then log.filter Event.isOfJanitor else [] := by
  cases number? with
  | none => rfl
  | some other =>
      by_cases hother : other = number
      · subst hother
        rw [if_pos rfl]
        exact ofCaller_map_self other _
      · rw [if_neg fun heq => hother (Option.some.inj heq)]
        exact ofCaller_map_of_ne hother _

theorem map_snd_signed {number? : Option Nat}
    (h : number? = none → log.filter Event.isOfJanitor = []) :
    (signed number? log).map Prod.snd = log.filter Event.isOfJanitor := by
  cases number? with
  | none => exact (h rfl).symm
  | some number => simp [signed, Function.comp_def]

end Roll

/-! ### One timer -/

theorem Cache.timer_wake {ν : Type} (cache : Cache ν) (station : Station)
    (now turn lingers : Nat) (clock : Clock) :
    (cache.wake station now turn lingers clock).1.timer = cache.timer := by
  cases hjanitor : cache.janitorAt? station with
  | none => rw [wake_of_none hjanitor]
  | some janitor => rw [wake_of_janitor hjanitor, timer_setJanitor]

theorem Cache.timer_run {ν : Type} [SnapshotText ν] (cache : Cache ν) (now turn : Nat)
    (clock : Clock) (disk : Disk) (command : Command ν) :
    ((cache.run now turn clock disk command).cache?.getD cache.discard).timer = cache.timer := by
  cases command with
  | save path policy =>
      simp only [run]
      split <;> rfl
  | startJanitor interval onRuntime => cases onRuntime <;> rfl
  | _ => rfl

namespace Session

variable {session : Session}

/-- All caches have the timer of the session. -/
def Uniform (session : Session) : Prop :=
  ∀ place cache, session.kept? place = some cache → cache.timer = session.timer

theorem timer_wakeAt (session : Session) (post : Post) :
    (session.wakeAt post).1.timer = session.timer := by
  unfold wakeAt
  split <;> rfl

theorem timer_ask (session : Session) (place : Nat) (command : Command Payload) :
    (session.ask place command).2.1.timer = session.timer := by
  unfold ask
  split <;> rfl

theorem Uniform.wakeAt (h : session.Uniform) (post : Post) : (session.wakeAt post).1.Uniform := by
  intro place later hlater
  rw [timer_wakeAt]
  by_cases hplace : post.place = place
  · subst hplace
    cases hkept : session.kept? post.place with
    | none =>
        rw [wakeAt_of_none hkept] at hlater
        exact h _ _ hlater
    | some cache =>
        rw [kept?_wakeAt_self hkept] at hlater
        rw [← Option.some.inj hlater, Cache.timer_wake]
        exact h _ _ hkept
  · rw [kept?_wakeAt_of_ne hplace] at hlater
    exact h _ _ hlater

theorem Uniform.ask (h : session.Uniform) (place : Nat) (command : Command Payload) :
    (session.ask place command).2.1.Uniform := by
  intro other later hlater
  rw [timer_ask]
  refine forall_kept?_ask h (fun cache htimer => ?_) place other later hlater
  rw [Cache.timer_run, htimer]

theorem Uniform.append (h : session.Uniform) {cache? : Option (Cache Payload)} (turn : Nat)
    (hcache : ∀ cache, cache? = some cache → cache.timer = session.timer) :
    { session with turn, caches := session.caches ++ [cache?] }.Uniform :=
  forall_kept?_append h hcache turn

theorem janitorAt?_append_self (session : Session) (station : Station)
    (cache? : Option (Cache Payload)) (turn : Nat) :
    { session with turn, caches := session.caches ++ [cache?] }.janitorAt?
        ⟨session.caches.length, station⟩ = cache?.bind (·.janitorAt? station) := by
  rw [janitorAt?, kept?_append_self]

theorem janitorAt?_append_of_ne {post : Post} (hne : post.place ≠ session.caches.length)
    (cache? : Option (Cache Payload)) (turn : Nat) :
    { session with turn, caches := session.caches ++ [cache?] }.janitorAt? post =
      session.janitorAt? post := by
  rw [janitorAt?, kept?_append_of_ne hne, janitorAt?]

theorem janitorAt?_length_caches (session : Session) (station : Station) :
    session.janitorAt? ⟨session.caches.length, station⟩ = none := by
  rw [janitorAt?, kept?_length_caches]
  rfl

end Session

namespace Roll

variable {roll later : Roll} {post : Post} {number : Nat} {session : Session} {log : List Event}

/-! ### Posts of the janitors of the session -/

structure Faithful (roll : Roll) : Prop where
  nodup : roll.posts.Nodup
  mem_iff : ∀ post, post ∈ roll.posts ↔ (roll.session.janitorAt? post).isSome
  uniform : roll.session.Uniform

/-- What an operation leaves of the roll, and what is signed meanwhile. -/
structure Follows (roll later : Roll) (log : List (Nat × Event)) : Prop where
  faithful : later.Faithful
  timer_eq : later.session.timer = roll.session.timer
  career : ∀ number,
    Janitor.Career roll.session.timer (roll.janitor? number) (ofCaller number log)
      (later.janitor? number)

theorem Follows.trans {third : Roll} {log more : List (Nat × Event)} (h : roll.Follows later log)
    (h' : later.Follows third more) : roll.Follows third (log ++ more) := by
  refine ⟨h'.faithful, h'.timer_eq.trans h.timer_eq, fun number => ?_⟩
  have hcareer := h'.career number
  rw [h.timer_eq] at hcareer
  rw [ofCaller_append]
  exact (h.career number).trans hcareer

theorem Faithful.rest (h : roll.Faithful) : roll.Follows roll [] :=
  ⟨h, rfl, fun _ => Janitor.career_rest _ _⟩

theorem janitor?_eq_some_iff {janitor : Janitor} : roll.janitor? number = some janitor ↔
    ∃ post, roll.posts[number]? = some post ∧ roll.session.janitorAt? post = some janitor :=
  Option.bind_eq_some_iff

theorem janitor?_of_posts (h : roll.posts[number]? = some post) :
    roll.janitor? number = roll.session.janitorAt? post := by
  rw [janitor?, h, Option.bind_some]

theorem Faithful.exists_janitor (h : roll.Faithful) (hpost : roll.posts[number]? = some post) :
    ∃ janitor, roll.session.janitorAt? post = some janitor ∧
      roll.janitor? number = some janitor := by
  obtain ⟨janitor, hjanitor⟩ :=
    Option.isSome_iff_exists.1 ((h.mem_iff post).1 (List.mem_of_getElem? hpost))
  exact ⟨janitor, hjanitor, by rw [janitor?_of_posts hpost, hjanitor]⟩

theorem Faithful.number?_eq_some_iff (h : roll.Faithful) :
    roll.number? post = some number ↔ roll.posts[number]? = some post := by
  rw [number?, List.idxOf?_eq_some_iff, List.getElem?_eq_some_iff]
  refine ⟨fun ⟨hlt, hpost, _⟩ => ⟨hlt, hpost⟩, fun ⟨hlt, hpost⟩ => ⟨hlt, hpost, ?_⟩⟩
  intro j hj hsame
  exact hj.ne (h.nodup.getElem_inj_iff.1 (hsame.trans hpost.symm))

theorem Faithful.janitorAt?_of_number?_eq_none (h : roll.Faithful)
    (hnumber : roll.number? post = none) : roll.session.janitorAt? post = none := by
  have hmem : post ∉ roll.posts := List.idxOf?_eq_none_iff.1 hnumber
  exact Option.not_isSome_iff_eq_none.1 (mt (h.mem_iff post).2 hmem)

/-! ### Janitors that move -/

/-- Janitors have moved, and at most the one at the post has changed meanwhile. -/
structure Moves (roll : Roll) (move : Post → Post) (post : Post) (session : Session)
    (log : List Event) : Prop where
  timer_eq : session.timer = roll.session.timer
  uniform : session.Uniform
  move_inj : ∀ a ∈ roll.posts, ∀ b ∈ roll.posts, move a = move b → a = b
  exists_before : ∀ other, (session.janitorAt? other).isSome →
    ∃ before ∈ roll.posts, move before = other
  others : ∀ other ∈ roll.posts, other ≠ post →
    session.janitorAt? (move other) = roll.session.janitorAt? other
  stint : Janitor.Stint (roll.session.janitorAt? post) (log.filter Event.isOfJanitor)
    (session.janitorAt? (move post))

theorem Moves.faithful {move : Post → Post} (h : roll.Moves move post session log)
    (hroll : roll.Faithful) : Faithful { session, posts := roll.posts.map move } where
  nodup := hroll.nodup.map_on h.move_inj
  mem_iff other := by
    refine ⟨fun hmem => ?_, fun hsome => List.mem_map.2 (h.exists_before other hsome)⟩
    obtain ⟨before, hbefore, rfl⟩ := List.mem_map.1 hmem
    have hsome := (hroll.mem_iff before).1 hbefore
    by_cases hpost : before = post
    · subst hpost
      exact h.stint.isSome_iff.2 hsome
    · change (session.janitorAt? (move before)).isSome
      rwa [h.others before hbefore hpost]
  uniform := h.uniform

theorem Moves.follows {move : Post → Post} (h : roll.Moves move post session log)
    (hroll : roll.Faithful) :
    roll.Follows { session, posts := roll.posts.map move } (signed (roll.number? post) log) := by
  refine ⟨h.faithful hroll, h.timer_eq, fun number => ?_⟩
  rw [ofCaller_signed]
  cases hnumber : roll.posts[number]? with
  | none =>
      have hnone : roll.number? post ≠ some number := fun heq =>
        Option.some_ne_none post ((hroll.number?_eq_some_iff.1 heq).symm.trans hnumber)
      rw [if_neg hnone, janitor?, janitor?, List.getElem?_map, hnumber]
      exact Janitor.career_rest _ none
  | some found =>
      have hmoved : (roll.posts.map move)[number]? = some (move found) := by
        rw [List.getElem?_map, hnumber, Option.map_some]
      have hlater : Roll.janitor? { session, posts := roll.posts.map move } number =
          session.janitorAt? (move found) := janitor?_of_posts hmoved
      rw [janitor?_of_posts hnumber, hlater]
      by_cases hpost : found = post
      · subst hpost
        rw [if_pos (hroll.number?_eq_some_iff.2 hnumber)]
        exact .stint h.stint
      · have hother : roll.number? post ≠ some number := fun heq =>
          hpost (Option.some.inj (hnumber.symm.trans (hroll.number?_eq_some_iff.1 heq)))
        rw [if_neg hother, h.others found (List.mem_of_getElem? hnumber) hpost]
        exact Janitor.career_rest _ _

theorem Moves.map_snd_signed {move : Post → Post} (h : roll.Moves move post session log)
    (hroll : roll.Faithful) :
    (signed (roll.number? post) log).map Prod.snd = log.filter Event.isOfJanitor :=
  Roll.map_snd_signed fun hnumber =>
    h.stint.log_eq_nil (hroll.janitorAt?_of_number?_eq_none hnumber)

/-! ### Janitors that stay -/

/-- Nobody has moved, and at most the janitor at the post has changed meanwhile. -/
structure Stays (roll : Roll) (post : Post) (session : Session) (log : List Event) : Prop where
  timer_eq : session.timer = roll.session.timer
  uniform : session.Uniform
  others : ∀ other, other ≠ post → session.janitorAt? other = roll.session.janitorAt? other
  stint : Janitor.Stint (roll.session.janitorAt? post) (log.filter Event.isOfJanitor)
    (session.janitorAt? post)

theorem Stays.moves (h : roll.Stays post session log) (hroll : roll.Faithful) :
    roll.Moves id post session log where
  timer_eq := h.timer_eq
  uniform := h.uniform
  move_inj _ _ _ _ heq := heq
  exists_before other hsome := by
    refine ⟨other, (hroll.mem_iff other).2 ?_, rfl⟩
    by_cases hpost : other = post
    · subst hpost
      exact h.stint.isSome_iff.1 hsome
    · rwa [← h.others other hpost]
  others other _ hpost := h.others other hpost
  stint := h.stint

theorem Stays.follows (h : roll.Stays post session log) (hroll : roll.Faithful) :
    roll.Follows { roll with session } (signed (roll.number? post) log) := by
  have hfollows := (h.moves hroll).follows hroll
  rwa [List.map_id] at hfollows

/-! ### Newcomers -/

theorem Faithful.follows_hire (h : roll.Faithful) (hnobody : roll.session.janitorAt? post = none)
    (htimer : session.timer = roll.session.timer) (huniform : session.Uniform)
    (hothers : ∀ other, other ≠ post →
      session.janitorAt? other = roll.session.janitorAt? other)
    {interval : Duration} {now turn : Nat}
    (hlog : log.filter Event.isOfJanitor =
      [.janitorStarted (Janitor.effectiveInterval interval)])
    (hstart : session.janitorAt? post =
      some (Janitor.start roll.session.timer interval now turn)) :
    roll.Follows { session, posts := roll.posts ++ [post] }
      (signed (some roll.posts.length) log) := by
  have hfresh : post ∉ roll.posts := fun hmem => by
    have hsome := (h.mem_iff post).1 hmem
    rw [hnobody] at hsome
    exact absurd hsome Bool.false_ne_true
  refine ⟨⟨?_, fun other => ?_, huniform⟩, htimer, fun number => ?_⟩
  · exact h.nodup.append (List.nodup_singleton post)
      (List.disjoint_singleton.2 hfresh)
  · rw [List.mem_append, List.mem_singleton]
    change _ ↔ (session.janitorAt? other).isSome
    by_cases hpost : other = post
    · subst hpost
      rw [hstart]
      exact iff_of_true (Or.inr rfl) rfl
    · rw [hothers other hpost, h.mem_iff other, or_iff_left hpost]
  · rw [ofCaller_signed]
    rcases Nat.lt_trichotomy number roll.posts.length with hlt | rfl | hgt
    · have hbefore : roll.posts[number]? = some roll.posts[number] := List.getElem?_eq_getElem hlt
      have hafter : (roll.posts ++ [post])[number]? = some roll.posts[number] := by
        rw [List.getElem?_append_left hlt, hbefore]
      have hne : roll.posts[number] ≠ post := fun heq => hfresh (heq ▸ List.getElem_mem hlt)
      have hlater : Roll.janitor? { session, posts := roll.posts ++ [post] } number =
          session.janitorAt? roll.posts[number] := janitor?_of_posts hafter
      rw [if_neg fun heq => hlt.ne' (Option.some.inj heq), janitor?_of_posts hbefore, hlater,
        hothers _ hne]
      exact Janitor.career_rest _ _
    · have hlater : Roll.janitor? { session, posts := roll.posts ++ [post] } roll.posts.length =
          session.janitorAt? post := janitor?_of_posts List.getElem?_concat_length
      have hbefore : roll.janitor? roll.posts.length = none := by
        rw [janitor?, List.getElem?_eq_none le_rfl]
        rfl
      rw [if_pos rfl, hlog, hbefore, hlater, hstart]
      exact .start interval now turn .rest
    · have hlength : (roll.posts ++ [post]).length ≤ number := by
        rw [List.length_append, List.length_singleton]
        exact hgt
      rw [if_neg fun heq => hgt.ne (Option.some.inj heq), janitor?, janitor?,
        List.getElem?_eq_none hgt.le, List.getElem?_eq_none hlength]
      exact Janitor.career_rest _ none

end Roll

end ExpiringCache
