import ExpiringCache.Time.Instant
/-!
# Clocks

A `Clock` answers readings of the wall time. It may hold readings that were fixed beforehand, each
of which answers one reading; after them it shows its steady time. Consecutive readings need not
increase.

`Clock.deadline` is the only place where a time to live becomes a point of time.
-/

namespace ExpiringCache

structure Clock where
  /-- The answers to the next readings. -/
  queued : List Instant := []
  /-- The answer to every later reading. -/
  steady : Instant
deriving DecidableEq

namespace Clock

def read (clock : Clock) : Instant × Clock :=
  match clock.queued with
  | [] => (clock.steady, clock)
  | now :: queued => (now, { clock with queued })

def readings (clock : Clock) : Nat → List Instant × Clock
  | 0 => ([], clock)
  | n + 1 =>
    let (now, clock) := clock.read
    let (later, clock) := clock.readings n
    (now :: later, clock)

def advance (clock : Clock) (elapsed : Duration) : Clock :=
  { clock with steady := clock.steady + elapsed }

@[simp]
theorem read_mk_nil (now : Instant) : read { steady := now } = (now, { steady := now }) := rfl

@[simp]
theorem read_mk_cons (now steady : Instant) (queued : List Instant) :
    read { queued := now :: queued, steady } = (now, { queued, steady }) := rfl

@[simp]
theorem length_readings (clock : Clock) (n : Nat) : (clock.readings n).1.length = n := by
  induction n generalizing clock with
  | zero => rfl
  | succ n ih => simp [readings, ih]

end Clock

/-- The longest time to live that is counted from a clock reading. -/
def Duration.longestShift : Duration where
  seconds := 9223372036854775
  nanos := 807000000

/-- The expiry of an entry written now. A time to live past `Duration.longestShift` never ends and
needs no reading. -/
def Clock.deadline (clock : Clock) (ttl : Duration) : Instant × Clock :=
  if Duration.longestShift < ttl then (Instant.last, clock)
  else
    let (now, clock) := clock.read
    (now.plusCapped ttl, clock)

end ExpiringCache
