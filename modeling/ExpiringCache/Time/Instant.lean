import ExpiringCache.Time.Duration
/-!
# Instants of the wall clock

An `Instant` counts seconds from the epoch, before it as negative numbers, and nanoseconds upward
from the second. `Instant.toNanos` is the view that orders instants; adding a duration adds in that
view. `Instant.plusCapped` stops at `Instant.last`, the last instant of the calendar.
-/

namespace ExpiringCache

structure Instant where
  /-- Seconds since the epoch, rounded down. -/
  seconds : Int
  nanos : Nat := 0
  nanos_lt : nanos < nanosPerSecond := by decide

namespace Instant

def toNanos (t : Instant) : Int := t.seconds * nanosPerSecond + t.nanos

instance : LE Instant where
  le a b := a.toNanos ≤ b.toNanos

instance : LT Instant where
  lt a b := a.toNanos < b.toNanos

instance (a b : Instant) : Decidable (a ≤ b) := inferInstanceAs (Decidable (a.toNanos ≤ b.toNanos))

instance (a b : Instant) : Decidable (a < b) := inferInstanceAs (Decidable (a.toNanos < b.toNanos))

theorem le_iff (a b : Instant) : a ≤ b ↔ a.toNanos ≤ b.toNanos := Iff.rfl

theorem lt_iff (a b : Instant) : a < b ↔ a.toNanos < b.toNanos := Iff.rfl

theorem not_lt (a b : Instant) : ¬ a < b ↔ b ≤ a := by
  simp only [lt_iff, le_iff, Int.not_lt]

theorem toNanos_inj {a b : Instant} : a.toNanos = b.toNanos ↔ a = b := by
  constructor
  · intro h
    obtain ⟨sa, na, hna⟩ := a
    obtain ⟨sb, nb, hnb⟩ := b
    simp only [toNanos, nanosPerSecond] at h hna hnb
    obtain rfl : sa = sb := by omega
    obtain rfl : na = nb := by omega
    rfl
  · rintro rfl
    rfl

instance : DecidableEq Instant := fun _ _ => decidable_of_decidable_of_iff toNanos_inj

/-- The instant of the given seconds and nanoseconds, if the nanoseconds are less than a second. -/
def ofParts? (seconds : Int) (nanos : Nat) : Option Instant :=
  if h : nanos < nanosPerSecond then some ⟨seconds, nanos, h⟩ else none

/-- The instant so many nanoseconds after the epoch. -/
def ofNanos (nanos : Int) : Instant where
  seconds := nanos / nanosPerSecond
  nanos := (nanos % nanosPerSecond).toNat
  nanos_lt := by simp only [nanosPerSecond]; omega

@[simp]
theorem toNanos_ofNanos (nanos : Int) : (ofNanos nanos).toNanos = nanos := by
  simp only [ofNanos, toNanos, nanosPerSecond]
  omega

def plus (t : Instant) (d : Duration) : Instant :=
  if h : t.nanos + d.nanos < nanosPerSecond then
    { seconds := t.seconds + d.seconds
      nanos := t.nanos + d.nanos
      nanos_lt := h }
  else
    { seconds := t.seconds + d.seconds + 1
      nanos := t.nanos + d.nanos - nanosPerSecond
      nanos_lt := by have := t.nanos_lt; have := d.nanos_lt; omega }

instance : HAdd Instant Duration Instant where
  hAdd := plus

@[simp]
theorem toNanos_add (t : Instant) (d : Duration) : (t + d).toNanos = t.toNanos + d.toNanos := by
  change (t.plus d).toNanos = _
  unfold plus toNanos Duration.toNanos
  split
  · simp only [nanosPerSecond]
    omega
  · have hcarry : ¬t.nanos + d.nanos < 1000000000 := by assumption
    simp only [nanosPerSecond]
    omega

def last : Instant where
  seconds := 8210266876799
  nanos := 999999999

/-- The instant a duration later, or the last instant if that is earlier. -/
def plusCapped (t : Instant) (d : Duration) : Instant :=
  if t + d ≤ last then t + d else last

end Instant

end ExpiringCache
