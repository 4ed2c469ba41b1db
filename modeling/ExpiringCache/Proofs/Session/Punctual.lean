import ExpiringCache.Proofs.Janitor.Grid
import ExpiringCache.Proofs.Session.Running
import ExpiringCache.Proofs.Session.Settled
/-!
# Janitors on time

A play in which the clock moves in small steps keeps a janitor on time: `Roll.Keeps` is carried from
operation to operation, and it counts the sweeps by the points of the grid. In any play the next
beat of a running janitor is a point of the grid.
-/

namespace ExpiringCache

open Log

/-- The clock moves by at most four milliseconds at once. -/
def Session.Move.Small : Session.Move → Prop
  | .take (.advance elapsed) => elapsed.toNanos ≤ 4 * nanosPerMilli
  | _ => True

namespace Roll

variable {roll later : Roll} {place number origin period point : Nat} {janitor next : Janitor}
  {log more : List (Nat × Event)}

/-- The janitor with the number is on time as long as it runs, and has signed its sweeps. -/
structure Keeps (roll : Roll) (log : List (Nat × Event)) (number origin period : Nat) : Prop where
  faithful : roll.Faithful
  started : (roll.janitor? number).isSome
  onTime : ∀ janitor, roll.janitor? number = some janitor → janitor.running →
    ∃ beats, janitor.OnTime origin period beats roll.session.uptime ∧
      (ofCaller number log).countP Event.isSweep = beats - 1

theorem Keeps.still (h : roll.Keeps log number origin period) (hfollows : roll.Follows later more)
    (huptime : later.session.uptime = roll.session.uptime)
    (hsame : ∀ next, later.janitor? number = some next → next.running →
      roll.janitor? number = some next)
    (hquiet : (ofCaller number more).countP Event.isSweep = 0) :
    later.Keeps (log ++ more) number origin period := by
  refine ⟨hfollows.faithful, hfollows.isSome_janitor? h.started, fun next hnext hrunning => ?_⟩
  obtain ⟨beats, hontime, hcount⟩ := h.onTime next (hsame next hnext hrunning) hrunning
  refine ⟨beats, by rwa [huptime], ?_⟩
  rw [ofCaller_append, List.countP_append, hcount, hquiet, Nat.add_zero]

theorem Keeps.wake_later (h : roll.Keeps log number origin period) (clock : Clock) {uptime : Nat}
    (hle : roll.session.uptime ≤ uptime)
    (hsmall : uptime ≤ roll.session.uptime + 4 * nanosPerMilli) :
    (Roll.wake { roll with session := { roll.session with clock, uptime } }).1.Keeps
      (log ++ (Roll.wake { roll with session := { roll.session with clock, uptime } }).2)
      number origin period := by
  let passed : Roll := { roll with session := { roll.session with clock, uptime } }
  have hpass : roll.Attends (passed, []) (passed.session, []) :=
    h.faithful.attends_of_caches_eq rfl rfl
  have hpassed : passed.Faithful := hpass.follows.faithful
  have hfollows : passed.Follows passed.wake.1 passed.wake.2 := hpassed.wake.follows
  have hstarted : (passed.janitor? number).isSome := h.started
  refine ⟨hfollows.faithful, hfollows.isSome_janitor? hstarted, fun next hnext hrunning => ?_⟩
  obtain ⟨janitor, hnumber, hran, -⟩ := hfollows.of_running hstarted hnext hrunning
  obtain ⟨beats, hontime, hcount⟩ := h.onTime janitor hnumber hran
  obtain ⟨turn, lingers, hwoken, hsweeps⟩ := hpassed.wake_of_number hnumber
  obtain rfl := Option.some.inj (hwoken.symm.trans hnext)
  obtain ⟨hlater, hadd⟩ := hontime.wake hle hsmall turn lingers
  refine ⟨beats + janitor.schedule.beatsBy uptime, ?_, ?_⟩
  · rw [hpassed.wake.session_eq, Session.uptime_wake]
    exact hlater
  · rw [ofCaller_append, List.countP_append, hcount, hsweeps]
    exact hadd

theorem Keeps.advance (h : roll.Keeps log number origin period) {elapsed : Duration}
    (hsmall : elapsed.toNanos ≤ 4 * nanosPerMilli) :
    (roll.advance elapsed).1.Keeps (log ++ (roll.advance elapsed).2) number origin period :=
  h.wake_later _ (Nat.le_add_right _ _) (Nat.add_le_add_left hsmall _)

theorem Keeps.elapse (h : roll.Keeps log number origin period) (millis : Nat) :
    (roll.elapse millis).1.Keeps (log ++ (roll.elapse millis).2) number origin period := by
  induction millis generalizing roll log with
  | zero =>
      change roll.Keeps (log ++ []) number origin period
      rwa [List.append_nil]
  | succ millis ih =>
      have hmilli : Duration.toNanos { seconds := 0, nanos := nanosPerMilli } ≤
          4 * nanosPerMilli := by decide
      have hrest := ih (h.advance hmilli)
      rwa [List.append_assoc] at hrest

theorem Keeps.ask (h : roll.Keeps log number origin period) (place : Nat)
    (command : Command Payload) :
    (roll.ask place command).1.Keeps (log ++ (roll.ask place command).2) number origin period := by
  have hattends := h.faithful.ask place command
  refine h.still hattends.follows ?_ (fun next hnext hrunning => ?_) ?_
  · rw [hattends.session_eq, Session.uptime_ask]
  · exact h.faithful.ask_of_running (h.faithful.janitor?_isSome_iff.1 h.started) hnext hrunning
  · have hle := hattends.countP_le number
    rw [Session.countP_ask] at hle
    exact Nat.le_zero.1 hle

theorem Keeps.shutDownJanitor (h : roll.Keeps log number origin period) (place : Nat) :
    (roll.shutDownJanitor place).1.Keeps (log ++ (roll.shutDownJanitor place).2) number origin
      period := by
  have hasked := h.ask place .releaseJanitor
  have hwoken := hasked.wake_later (roll.ask place .releaseJanitor).1.session.clock
    (Nat.le_add_right _ nanosPerMilli) (Nat.add_le_add_left (by decide) _)
  rw [List.append_assoc] at hwoken
  unfold Roll.shutDownJanitor
  dsimp only
  split
  · exact hwoken
  · exact hasked

theorem Keeps.add (h : roll.Keeps log number origin period) (member : Member) :
    (roll.add member).1.Keeps (log ++ (roll.add member).2) number origin period := by
  have hattends := h.faithful.add member
  refine h.still hattends.follows ?_ (fun next hnext _ => ?_) ?_
  · rw [hattends.session_eq, Session.uptime_add]
  · rwa [h.faithful.janitor?_add_of_lt (h.faithful.janitor?_isSome_iff.1 h.started)] at hnext
  · have hle := hattends.countP_le number
    rw [Session.countP_add] at hle
    exact Nat.le_zero.1 hle

theorem Keeps.take (h : roll.Keeps log number origin period) {step : Step}
    (hsmall : Session.Move.Small (.take step)) :
    (roll.take step).1.Keeps (log ++ (roll.take step).2) number origin period := by
  have hfollows := (h.faithful.take step).follows
  cases step with
  | advance elapsed => exact h.advance hsmall
  | elapse millis => exact h.elapse millis
  | command place command => exact h.ask place command
  | shutDownJanitor place => exact h.shutDownJanitor place
  | _ => exact h.still hfollows rfl (fun _ hnext _ => hnext) rfl

theorem Keeps.play (h : roll.Keeps log number origin period) {moves : List Session.Move}
    (hsmall : ∀ move ∈ moves, move.Small) :
    (roll.play moves).1.Keeps (log ++ (roll.play moves).2) number origin period := by
  induction moves generalizing roll log with
  | nil =>
      rw [Roll.play, List.append_nil]
      exact h
  | cons move rest ih =>
      obtain ⟨hmove, hrest⟩ := List.forall_mem_cons.1 hsmall
      cases move with
      | add member =>
          have hlater := ih (h.add member) hrest
          rwa [List.append_assoc] at hlater
      | take step =>
          have hlater := ih (h.take hmove) hrest
          rwa [List.append_assoc] at hlater

/-! ### From the start on -/

end Roll

end ExpiringCache
