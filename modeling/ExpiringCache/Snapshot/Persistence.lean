import ExpiringCache.Disk.Basic
import ExpiringCache.Log.Event
import ExpiringCache.Payload
import ExpiringCache.Snapshot.Format
import ExpiringCache.Store
/-!
# Saving and reloading a store

A snapshot holds the entries whose key the policy takes and whose payload has a text, expired ones
included; it keeps no expiry. Reloading stores every pair of a snapshot as if it were put now, with
the lifetime of the policy, whatever its filter says. A file that cannot be read, or that is not a
snapshot from its beginning on, changes nothing.
-/

namespace ExpiringCache.Store

open Log

variable {ν : Type} [SnapshotText ν]

/-- The records of the entries that a policy saves. -/
def records (store : Store String ν) (policy : SnapshotPolicy) : List Snapshot.Record :=
  store.table.items.filterMap fun (key, entry) =>
    if policy.filter.accepts key then
      (SnapshotText.toText? entry.payload).map fun text => (key, text)
    else none

def image (store : Store String ν) (policy : SnapshotPolicy) : List UInt8 :=
  Snapshot.encode (store.records policy)

/-- Writes the image to a file; returns how many records it holds. -/
def save (store : Store String ν) (path : String) (policy : SnapshotPolicy) (disk : Disk) :
    Except CacheError (Nat × Disk) :=
  match disk.write path (store.image policy) with
  | .ok disk => .ok ((store.records policy).length, disk)
  | .error error => .error (.io error)

/-- What becomes of reloading a snapshot. -/
structure Reloaded (ν : Type) where
  /-- How many records were stored, counted without bound; a counter of 32 bits shows the same below
  `2 ^ 32`. -/
  entries : Nat
  store : Store String ν
  clock : Clock
  event : Event

def load (store : Store String ν) (values : Table String String) (ttl : Duration) (clock : Clock) :
    Store String ν × Clock :=
  store.putAll ttl clock (values.items.map fun (key, text) => (key, SnapshotText.ofText text))

/-- Stores the records of a snapshot, given what was read at its path. -/
def reload (store : Store String ν) (path : String) (policy : SnapshotPolicy)
    (content : Except IoError (List UInt8)) (clock : Clock) : Reloaded ν :=
  match content with
  | .error error => { entries := 0, store, clock, event := .snapshotUnreadable path error }
  | .ok bytes =>
    match Snapshot.decode bytes with
    | .error error => { entries := 0, store, clock, event := .snapshotUndecodable path error }
    | .ok records =>
      let values := Snapshot.latest records
      let (store, clock) := store.load values policy.reloadTtl clock
      { entries := values.size, store, clock, event := .snapshotReloaded values.size path }

end ExpiringCache.Store
