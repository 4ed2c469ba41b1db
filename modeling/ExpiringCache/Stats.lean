import ExpiringCache.Text.FixedPoint
/-!
# Statistics

Four counters that only grow, and what is reported of them together with the number of entries.
-/

namespace ExpiringCache

/-- What has happened in a store so far. -/
structure Counters where
  hits : Nat := 0
  misses : Nat := 0
  /-- Entries removed by a lookup that found them expired. -/
  lazyEvictions : Nat := 0
  /-- Entries removed by sweeps. -/
  swept : Nat := 0
deriving DecidableEq

/-- The counters of a store and the number of its entries, expired ones included. -/
structure Stats extends Counters where
  totalEntries : Nat := 0
deriving DecidableEq

namespace Stats

/-- The share of lookups that were hits, and zero before the first lookup. The sum is taken in whole
numbers and the quotient in doubles. -/
def hitRate (stats : Stats) : Float :=
  let lookups := stats.hits + stats.misses
  if lookups = 0 then 0
  else (UInt64.ofNat stats.hits).toFloat / (UInt64.ofNat lookups).toFloat

def summary (stats : Stats) : String :=
  s!"entries={stats.totalEntries}, hits={stats.hits}, misses={stats.misses}, " ++
    s!"hit_rate={FixedPoint.hundredths stats.hitRate}, " ++
    s!"lazy_evictions={stats.lazyEvictions}, swept={stats.swept}"

end Stats

end ExpiringCache
