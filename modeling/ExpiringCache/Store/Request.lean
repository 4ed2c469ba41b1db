import ExpiringCache.Store
/-!
# Requests to a store

The operations of a store as data, so that whole histories can be run.
-/

namespace ExpiringCache

inductive Request (κ ν : Type) where
  | put (key : κ) (payload : ν) (ttl : Duration)
  | get (key : κ)
  /-- Asks for the expiry beside the payload. -/
  | getWithExpiry (key : κ)
  | delete (key : κ)
  | purge
  | size
  | hitRate

inductive Response (ν : Type) where
  | stored
  | payload (found? : Option ν)
  | entry (found? : Option (Entry ν))
  | deleted (present : Bool)
  | purged (removed : Nat)
  | size (entries : Nat)
  | hitRate (rate : Float)

namespace Store

variable {κ ν : Type} [DecidableEq κ]

def serve (store : Store κ ν) (clock : Clock) : Request κ ν → Response ν × Store κ ν × Clock
  | .put key payload ttl =>
    let (store, clock) := store.put key payload ttl clock
    (.stored, store, clock)
  | .get key =>
    let (found?, store, clock) := store.lookup key clock
    (.payload (found?.map (·.payload)), store, clock)
  | .getWithExpiry key =>
    let (found?, store, clock) := store.lookup key clock
    (.entry found?, store, clock)
  | .delete key =>
    let (present, store) := store.delete key
    (.deleted present, store, clock)
  | .purge =>
    let (removed, store, clock) := store.purge clock
    (.purged removed, store, clock)
  | .size => (.size store.size, store, clock)
  | .hitRate => (.hitRate store.stats.hitRate, store, clock)

def serveAll (store : Store κ ν) (clock : Clock) :
    List (Request κ ν) → List (Response ν) × Store κ ν × Clock
  | [] => ([], store, clock)
  | request :: rest =>
    let (response, store, clock) := store.serve clock request
    let (responses, store, clock) := store.serveAll clock rest
    (response :: responses, store, clock)

end Store

end ExpiringCache
