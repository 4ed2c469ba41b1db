import ExpiringCache.Time.Clock
/-!
# Cache entries

A payload with the instant after which it counts as expired. At that very instant the entry is
still live.
-/

namespace ExpiringCache

structure Entry (ν : Type) where
  payload : ν
  /-- The last instant at which the entry is live. -/
  expiresAt : Instant
deriving DecidableEq

namespace Entry

variable {ν : Type}

/-- The entry is past its expiry at the given reading of the clock. -/
def ExpiredAt (entry : Entry ν) (now : Instant) : Prop := entry.expiresAt < now

instance (entry : Entry ν) (now : Instant) : Decidable (entry.ExpiredAt now) :=
  inferInstanceAs (Decidable (entry.expiresAt < now))

def fresh (payload : ν) (ttl : Duration) (clock : Clock) : Entry ν × Clock :=
  let (expiresAt, clock) := clock.deadline ttl
  ({ payload, expiresAt }, clock)

theorem not_expiredAt {entry : Entry ν} {now : Instant} :
    ¬entry.ExpiredAt now ↔ now ≤ entry.expiresAt :=
  Instant.not_lt _ _

end Entry

end ExpiringCache
