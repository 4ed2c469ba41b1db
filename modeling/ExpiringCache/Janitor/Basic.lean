import ExpiringCache.Janitor.Schedule
import ExpiringCache.Log.Event
/-!
# The janitor

A janitor sweeps a store at the beats of its schedule until it is told to stop. The first beat is
due when the janitor starts, and it does not sweep at it; as beats come in whole milliseconds, it
may have to wait for that beat, and a janitor that is told to stop meanwhile leaves no sooner. It is
never started again: a store that is to be swept once more gets another janitor.

After a late first beat further beats may be due already. A janitor that was told to stop then finds
them and the order before it at once, and which of the two it takes first is left to chance: it
sweeps at some of these beats, at all of them or at none, and leaves.
-/

namespace ExpiringCache

open Log

/-- How far a janitor has come. -/
inductive Phase where
  /-- Its first beat is ahead. -/
  | starting
  | sweeping
  /-- It is told to stop, and its first beat is ahead. -/
  | leaving
  | stopped
deriving DecidableEq

structure Janitor where
  /-- The interval asked for, or the shortest one. -/
  interval : Duration
  schedule : Schedule
  phase : Phase
  /-- Of janitors with beats in the same millisecond the one with the lowest turn is first. -/
  turn : Nat
deriving DecidableEq

namespace Janitor

def shortestInterval : Duration where
  seconds := 0
  nanos := nanosPerMilli

/-- The interval, or the shortest one if that is longer. -/
def effectiveInterval (interval : Duration) : Duration :=
  if interval < shortestInterval then shortestInterval else interval

def intervalWarnings (interval : Duration) : List Event :=
  if interval < shortestInterval then [.intervalTooShort interval shortestInterval] else []

theorem nanosPerMilli_le_toNanos_effectiveInterval (interval : Duration) :
    nanosPerMilli ≤ (effectiveInterval interval).toNanos := by
  rw [effectiveInterval]
  split
  · decide
  · rename_i h
    exact (Duration.not_lt _ _).1 h

/-- Whether the janitor has not been told to stop. -/
def running (janitor : Janitor) : Bool :=
  janitor.phase = .starting || janitor.phase = .sweeping

def DueAt (janitor : Janitor) (now : Nat) : Prop :=
  janitor.phase ≠ .stopped ∧ janitor.schedule.DueAt now

instance (janitor : Janitor) (now : Nat) : Decidable (janitor.DueAt now) :=
  inferInstanceAs (Decidable (janitor.phase ≠ .stopped ∧ janitor.schedule.DueAt now))

/-- The janitor after the beats that are due, and the number of sweeps it does at them. If it was
told to stop, `lingers` is how many of the beats after the first one it takes before it leaves. -/
def wake (janitor : Janitor) (now turn lingers : Nat) : Nat × Janitor :=
  if janitor.DueAt now then
    let (beats, schedule) := janitor.schedule.catchUp now
    match janitor.phase with
    | .starting => (beats - 1, { janitor with schedule, turn, phase := .sweeping })
    | .sweeping => (beats, { janitor with schedule, turn })
    | .leaving => (min lingers (beats - 1), { janitor with phase := .stopped })
    | .stopped => (0, janitor)
  else (0, janitor)

/-- The time between two sweeps of a janitor with the given interval. -/
def period (timer : Timer) (interval : Duration) : Duration :=
  timer.period (effectiveInterval interval)

theorem nanosPerMilli_le_toNanos_period (timer : Timer) (interval : Duration) :
    nanosPerMilli ≤ (period timer interval).toNanos :=
  timer.nanosPerMilli_le_toNanos_period (nanosPerMilli_le_toNanos_effectiveInterval interval)

def start (timer : Timer) (interval : Duration) (now turn : Nat) : Janitor :=
  let janitor : Janitor := {
    interval := effectiveInterval interval
    schedule := {
      period := (period timer interval).toNanos
      due := now
      le_period := nanosPerMilli_le_toNanos_period timer interval }
    phase := .starting
    turn }
  (janitor.wake now turn 0).2

def stop (janitor : Janitor) : Janitor :=
  match janitor.phase with
  | .starting => { janitor with phase := .leaving }
  | .sweeping => { janitor with phase := .stopped }
  | _ => janitor

/-- What the log says when a janitor becomes another one: that it stopped, if it did. -/
def farewell (before after : Janitor) : List Event :=
  if before.phase ≠ .stopped ∧ after.phase = .stopped then [.janitorStopped] else []

/-- The first janitor wakes no later than the second. -/
def Precedes (a b : Janitor) : Prop :=
  a.schedule.dueMilli < b.schedule.dueMilli ∨
    (a.schedule.dueMilli = b.schedule.dueMilli ∧ a.turn ≤ b.turn)

instance (a b : Janitor) : Decidable (a.Precedes b) :=
  inferInstanceAs (Decidable (a.schedule.dueMilli < b.schedule.dueMilli ∨
    (a.schedule.dueMilli = b.schedule.dueMilli ∧ a.turn ≤ b.turn)))

end Janitor

end ExpiringCache
