/-!
# Durations

A `Duration` is a number of whole seconds, below `2 ^ 64`, and a number of nanoseconds below one
second. `Duration.toNanos` is the view through which durations are compared and added.
-/

namespace ExpiringCache

abbrev nanosPerSecond : Nat := 1000000000

abbrev nanosPerMilli : Nat := 1000000

structure Duration where
  seconds : Nat
  nanos : Nat := 0
  seconds_lt : seconds < UInt64.size := by decide
  nanos_lt : nanos < nanosPerSecond := by decide
deriving DecidableEq

namespace Duration

def toNanos (d : Duration) : Nat := nanosPerSecond * d.seconds + d.nanos

instance : LE Duration where
  le a b := a.toNanos ≤ b.toNanos

instance : LT Duration where
  lt a b := a.toNanos < b.toNanos

instance (a b : Duration) : Decidable (a ≤ b) := inferInstanceAs (Decidable (a.toNanos ≤ b.toNanos))

instance (a b : Duration) : Decidable (a < b) := inferInstanceAs (Decidable (a.toNanos < b.toNanos))

theorem le_iff (a b : Duration) : a ≤ b ↔ a.toNanos ≤ b.toNanos := Iff.rfl

theorem lt_iff (a b : Duration) : a < b ↔ a.toNanos < b.toNanos := Iff.rfl

theorem not_lt (a b : Duration) : ¬ a < b ↔ b ≤ a := by
  simp only [lt_iff, le_iff, Nat.not_lt]

theorem toNanos_inj {a b : Duration} : a.toNanos = b.toNanos ↔ a = b := by
  constructor
  · intro h
    obtain ⟨sa, na, _, hna⟩ := a
    obtain ⟨sb, nb, _, hnb⟩ := b
    simp only [toNanos, nanosPerSecond] at h hna hnb
    obtain rfl : sa = sb := by omega
    obtain rfl : na = nb := by omega
    rfl
  · rintro rfl
    rfl

/-- The duration of the given seconds and nanoseconds, if both are in range. -/
def ofParts? (seconds nanos : Nat) : Option Duration :=
  if h : seconds < UInt64.size ∧ nanos < nanosPerSecond then some ⟨seconds, nanos, h.1, h.2⟩
  else none

def ofSeconds (n : UInt64) : Duration where
  seconds := n.toNat
  seconds_lt := n.toNat_lt_size

def ofMillis (n : UInt64) : Duration where
  seconds := n.toNat / 1000
  nanos := n.toNat % 1000 * nanosPerMilli
  seconds_lt := Nat.lt_of_le_of_lt (Nat.div_le_self _ _) n.toNat_lt_size
  nanos_lt := by simp only [nanosPerMilli, nanosPerSecond]; omega

@[simp]
theorem toNanos_ofSeconds (n : UInt64) : (ofSeconds n).toNanos = n.toNat * nanosPerSecond := by
  simp [ofSeconds, toNanos, Nat.mul_comm]

@[simp]
theorem toNanos_ofMillis (n : UInt64) : (ofMillis n).toNanos = n.toNat * nanosPerMilli := by
  simp only [ofMillis, toNanos, nanosPerMilli, nanosPerSecond]
  omega

/-- The digits of a fraction, given the value of `width` decimal places, without trailing zeros. -/
def fraction : Nat → Nat → List Char
  | _, 0 => []
  | 0, _ => []
  | width + 1, value =>
    let unit := Nat.pow 10 width
    Nat.digitChar (value / unit) :: fraction width (value % unit)

/-- A decimal number with `width` places, without trailing zeros, followed by its unit. -/
def decimal (whole width places : Nat) (unit : String) : String :=
  let digits := fraction width places
  toString whole ++ (if digits.isEmpty then "" else "." ++ String.ofList digits) ++ unit

/-- The duration in the largest unit of which it holds at least one. -/
def text (d : Duration) : String :=
  if 0 < d.seconds then decimal d.seconds 9 d.nanos "s"
  else if nanosPerMilli ≤ d.nanos then
    decimal (d.nanos / nanosPerMilli) 6 (d.nanos % nanosPerMilli) "ms"
  else if 1000 ≤ d.nanos then decimal (d.nanos / 1000) 3 (d.nanos % 1000) "µs"
  else decimal d.nanos 0 0 "ns"

end Duration

end ExpiringCache
