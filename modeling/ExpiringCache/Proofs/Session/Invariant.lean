import ExpiringCache.Proofs.Session.Steps
/-!
# What every play keeps

A play adds members to a session and takes steps, in any order. A property survives it if a wake at
a later moment, one command and one new member leave it. A property of the caches alone survives a
wake if it survives the wake of one janitor. A parameter says which commands the play may hold;
whoever shuts a janitor down releases it.
-/

namespace ExpiringCache

open Log

def Step.Allowed (allowed : Nat → Command Payload → Prop) : Step → Prop
  | .command place asked => allowed place asked
  | .shutDownJanitor place => allowed place .releaseJanitor
  | _ => True

theorem Step.allowed_of_any (step : Step) : step.Allowed fun _ _ => True := by
  cases step <;> trivial

namespace Session

inductive Move where
  | add (member : Member)
  | take (step : Step)

def play (session : Session) : List Move → Session × List Event
  | [] => (session, [])
  | move :: rest =>
    let (session, log) := match move with
      | .add member => (session.add member).2
      | .take step => (session.take step).2
    let (session, later) := session.play rest
    (session, log ++ later)

/-- The moves that ask for nothing else keep the property, which depends on the caches and the
running clock alone. -/
structure Invariant (allowed : Nat → Command Payload → Prop) (property : Session → Prop) :
    Prop where
  still : ∀ {session later : Session}, property session → later.caches = session.caches →
    later.uptime = session.uptime → property later
  wake_later : ∀ {session : Session} (clock : Clock) {uptime : Nat}, property session →
    session.uptime ≤ uptime → property ({ session with clock, uptime } : Session).wake.1
  ask : ∀ {session : Session} {place : Nat} {command : Command Payload}, allowed place command →
    property session → property (session.ask place command).2.1
  add : ∀ {session : Session} (member : Member), property session →
    property (session.add member).2.1

def Move.Allowed (allowed : Nat → Command Payload → Prop) : Move → Prop
  | .add _ => True
  | .take step => step.Allowed allowed

theorem Move.allowed_of_any (move : Move) : move.Allowed fun _ _ => True := by
  cases move with
  | add member => trivial
  | take step => exact step.allowed_of_any

variable {allowed : Nat → Command Payload → Prop} {property : Session → Prop} {session : Session}

theorem Invariant.of_wakeAt
    (hcaches : ∀ {session later : Session}, property session → later.caches = session.caches →
      property later)
    (hwakeAt : ∀ {session : Session} (post : Post), property session →
      property (session.wakeAt post).1)
    (hask : ∀ {session : Session} {place : Nat} {command : Command Payload},
      allowed place command → property session → property (session.ask place command).2.1)
    (hadd : ∀ {session : Session} (member : Member), property session →
      property (session.add member).2.1) : Invariant allowed property where
  still hsession hsame _ := hcaches hsession hsame
  ask := hask
  add := hadd
  wake_later {session} clock {uptime} hsession _ := by
    have hpassed : property { session with clock, uptime } := hcaches hsession rfl
    have hwakeEach : ∀ order : List Post, ∀ {session : Session}, property session →
        property (session.wakeEach order).1 := by
      intro order
      induction order with
      | nil => exact id
      | cons head rest ih => exact fun hsession => ih (hwakeAt head hsession)
    exact hwakeEach _ hpassed

theorem add_of_append
    (happend : ∀ (cache? : Option (Cache Payload)) (turn : Nat),
      property { session with turn, caches := session.caches ++ [cache?] }) (member : Member) :
    property (session.add member).2.1 := by
  cases member with
  | bare => exact happend _ _
  | managed interval onRuntime =>
      cases onRuntime with
      | false => exact happend _ _
      | true => exact happend _ _

namespace Invariant

variable (h : Invariant allowed property)

include h

theorem elapse (hsession : property session) (millis : Nat) :
    property (session.elapse millis).1 := by
  induction millis generalizing session with
  | zero => exact hsession
  | succ millis ih => exact ih (h.wake_later _ hsession (Nat.le_add_right _ _))

theorem shutDownJanitor (hsession : property session) {place : Nat}
    (hallowed : allowed place .releaseJanitor) :
    property (session.shutDownJanitor place).2.1 := by
  have hasked := h.ask hallowed hsession
  unfold Session.shutDownJanitor
  dsimp only
  split
  · exact h.wake_later _ hasked (Nat.le_add_right _ _)
  · exact hasked

theorem take (hsession : property session) {step : Step} (hallowed : step.Allowed allowed) :
    property (session.take step).2.1 := by
  cases step with
  | advance elapsed => exact h.wake_later _ hsession (Nat.le_add_right _ _)
  | elapse millis => exact h.elapse hsession millis
  | command place command => exact h.ask hallowed hsession
  | shutDownJanitor place => exact h.shutDownJanitor hsession hallowed
  | _ => exact h.still hsession rfl rfl

theorem play (hsession : property session) {moves : List Move}
    (hmoves : ∀ move ∈ moves, move.Allowed allowed) : property (session.play moves).1 := by
  induction moves generalizing session with
  | nil => exact hsession
  | cons move rest ih =>
      obtain ⟨hmove, hrest⟩ := List.forall_mem_cons.1 hmoves
      cases move with
      | add member => exact ih (h.add member hsession) hrest
      | take step => exact ih (h.take hsession hmove) hrest

end Invariant

end Session

end ExpiringCache
