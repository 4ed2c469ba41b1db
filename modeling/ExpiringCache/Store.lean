import ExpiringCache.Entry
import ExpiringCache.Stats
import ExpiringCache.Table
/-!
# The store

A table of entries with counters. Every operation that depends on the time takes a clock and returns
it after its readings:

* a write takes one reading, unless its time to live never ends;
* a lookup takes none for an absent key, one for a live entry and two for an expired one. The second
  reading belongs to the removal: the entry that then stands under the key goes only if it is
  expired at that reading. Either way the lookup has missed;
* a purge takes one reading for each entry, in the order of the table.
-/

namespace ExpiringCache

/-- Entries by key, and what has happened to them. -/
structure Store (κ ν : Type) where
  /-- The entries present, expired ones included. -/
  table : Table κ (Entry ν) := ∅
  counters : Counters := {}

namespace Store

variable {κ ν : Type}

/-- The number of entries, expired ones included. -/
def size (store : Store κ ν) : Nat := store.table.size

def stats (store : Store κ ν) : Stats :=
  { toCounters := store.counters
    totalEntries := store.size }

def recordHit (store : Store κ ν) : Store κ ν :=
  { store with counters.hits := store.counters.hits + 1 }

def recordMiss (store : Store κ ν) : Store κ ν :=
  { store with counters.misses := store.counters.misses + 1 }

/-- The items whose own reading is not past their expiry. -/
def survivors (items : List (κ × Entry ν)) (readings : List Instant) : List (κ × Entry ν) :=
  ((items.zip readings).filter fun (item, now) => ¬item.2.ExpiredAt now).map Prod.fst

theorem survivors_sublist (items : List (κ × Entry ν)) (readings : List Instant) :
    (survivors items readings).Sublist items := by
  induction items generalizing readings with
  | nil => simp [survivors]
  | cons item rest ih =>
      cases readings with
      | nil => simp [survivors]
      | cons now later =>
          have ih := ih later
          by_cases h : item.2.ExpiredAt now
          · simpa [survivors, h] using ih.cons item
          · simpa [survivors, h] using ih

/-- Keeps the entries that survive the given readings, one for each entry, and counts the others. -/
def retain (store : Store κ ν) (readings : List Instant) : Store κ ν :=
  let table := store.table.ofSublist _ (survivors_sublist store.table.items readings)
  { table
    counters.hits := store.counters.hits
    counters.misses := store.counters.misses
    counters.lazyEvictions := store.counters.lazyEvictions
    counters.swept := store.counters.swept + (store.size - table.size) }

/-- Removes every expired entry; returns how many there were. -/
def purge (store : Store κ ν) (clock : Clock) : Nat × Store κ ν × Clock :=
  let (readings, clock) := clock.readings store.size
  let kept := store.retain readings
  (store.size - kept.size, kept, clock)

variable [DecidableEq κ]

def insert (store : Store κ ν) (key : κ) (entry : Entry ν) : Store κ ν :=
  { store with table := store.table.insert key entry }

def put (store : Store κ ν) (key : κ) (payload : ν) (ttl : Duration) (clock : Clock) :
    Store κ ν × Clock :=
  let (entry, clock) := Entry.fresh payload ttl clock
  (store.insert key entry, clock)

/-- Stores payloads one after the other, each with its own reading of the clock. -/
def putAll (store : Store κ ν) (ttl : Duration) (clock : Clock) :
    List (κ × ν) → Store κ ν × Clock
  | [] => (store, clock)
  | (key, payload) :: rest =>
    let (store, clock) := store.put key payload ttl clock
    store.putAll ttl clock rest

/-- Removes the entry under a key if it is expired at the given reading, and counts it. -/
def evictExpired (store : Store κ ν) (key : κ) (now : Instant) : Store κ ν :=
  match store.table.get? key with
  | none => store
  | some entry =>
    if entry.ExpiredAt now then
      { store with
        table := store.table.erase key
        counters.lazyEvictions := store.counters.lazyEvictions + 1 }
    else store

/-- The live entry under a key. An expired entry is evicted on the way. -/
def lookup (store : Store κ ν) (key : κ) (clock : Clock) :
    Option (Entry ν) × Store κ ν × Clock :=
  match store.table.get? key with
  | none => (none, store.recordMiss, clock)
  | some entry =>
    let (now, clock) := clock.read
    if entry.ExpiredAt now then
      let (later, clock) := clock.read
      (none, (store.evictExpired key later).recordMiss, clock)
    else (some entry, store.recordHit, clock)

/-- Removes the entry under a key, expired or not; tells whether there was one. -/
def delete (store : Store κ ν) (key : κ) : Bool × Store κ ν :=
  ((store.table.get? key).isSome, { store with table := store.table.erase key })

end Store

end ExpiringCache
