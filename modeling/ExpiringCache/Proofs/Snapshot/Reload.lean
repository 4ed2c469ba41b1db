import ExpiringCache.Proofs.Snapshot.Grammar
import ExpiringCache.Proofs.Store.Operations
/-!
# Reloading is all or nothing

Content that starts with an image is loaded whole, and the last record of a key counts; any other
content, and any path that cannot be read, changes nothing. There is nothing in between: the first
flaw stops a reload before the first entry is stored, however many records are well-formed.
-/

namespace ExpiringCache

namespace Snapshot

theorem get?_latest (records : List Record) (key : String) :
    (latest records).get? key = Table.lastValue? records key := by
  have hlatest : latest records = (∅ : Table String String).insertAll records := rfl
  rw [hlatest, Table.get?_insertAll, Table.get?_empty, Option.or_none]

theorem mem_keys_latest {records : List Record} {key : String} :
    key ∈ (latest records).keys ↔ key ∈ records.map Prod.fst :=
  Table.mem_keys_insertAll_empty

theorem size_latest (records : List Record) :
    (latest records).size = (records.map Prod.fst).dedup.length :=
  Table.size_insertAll_empty records

/-- The record stands in the list, and none after it has its key. -/
def IsLast (records : List Record) (record : Record) : Prop :=
  ∃ before after, records = before ++ record :: after ∧ record.1 ∉ after.map Prod.fst

theorem mem_items_latest {records : List Record} {record : Record} :
    record ∈ (latest records).items ↔ IsLast records record := by
  obtain ⟨key, text⟩ := record
  rw [← Table.get?_eq_some_iff, get?_latest, Table.lastValue?_eq_some_iff]
  rfl

end Snapshot

namespace Store

open Snapshot

variable {ν : Type} [SnapshotText ν]

theorem load_counters (store : Store String ν) (values : Table String String) (ttl : Duration)
    (clock : Clock) : (store.load values ttl clock).1.counters = store.counters := by
  rw [load_eq]

theorem get?_load_of_notMem {store : Store String ν} {values : Table String String}
    {ttl : Duration} {clock : Clock} {key : String} (h : key ∉ values.keys) :
    (store.load values ttl clock).1.table.get? key = store.table.get? key := by
  refine Option.ext fun entry => ?_
  rw [get?_load, or_iff_right ?_, and_iff_right h]
  rintro ⟨n, text, hitem, -⟩
  exact h (Table.mem_keys_iff.2 ⟨text, Table.get?_eq_some_iff.2 (List.mem_of_getElem? hitem)⟩)

/-- **Reloading is all or nothing.** Content that starts with an image is loaded whole: under each
key stands the value of its last record, with a reading of its own, and nothing else changes. Any
other content changes nothing, not even the readings to come. -/
theorem reload_whole_or_nothing (store : Store String ν) (path : String) (policy : SnapshotPolicy)
    (content : Except IoError (List UInt8)) (clock : Clock) :
    (∀ bytes records, content = .ok bytes → StartsWithImage bytes records →
      let reloaded := store.reload path policy content clock
      reloaded.entries = (records.map Prod.fst).dedup.length ∧
      (∀ key text, IsLast records (key, text) →
        ∃ n < reloaded.entries, reloaded.store.table.get? key =
          some { payload := SnapshotText.ofText text
                 expiresAt := clock.expiry policy.reloadTtl n }) ∧
      (∀ key, key ∉ records.map Prod.fst →
        reloaded.store.table.get? key = store.table.get? key) ∧
      reloaded.store.counters = store.counters) ∧
    ((∀ bytes records, content = .ok bytes → ¬StartsWithImage bytes records) →
      let reloaded := store.reload path policy content clock
      reloaded.entries = 0 ∧ reloaded.store = store ∧ reloaded.clock = clock) := by
  constructor
  · rintro bytes records rfl himage
    rw [reload_of_decode_eq_ok store path policy (decode_eq_ok_iff.2 himage)]
    refine ⟨size_latest records, fun key text hlast => ?_, fun key habsent => ?_,
      load_counters _ _ _ _⟩
    · obtain ⟨n, hitem⟩ := List.mem_iff_getElem?.1 (mem_items_latest.2 hlast)
      have hlt : n < (latest records).size := (List.getElem?_eq_some_iff.1 hitem).1
      exact ⟨n, hlt, get?_load.2 (Or.inl ⟨n, text, hitem, rfl⟩)⟩
    · exact get?_load_of_notMem (habsent ∘ mem_keys_latest.1)
  · intro hflawed
    have hdecode : ∀ bytes records, content = .ok bytes → decode bytes ≠ .ok records :=
      fun bytes records hcontent hok => hflawed bytes records hcontent (decode_eq_ok_iff.1 hok)
    obtain ⟨event, heq⟩ := reload_of_flawed store path policy hdecode clock
    rw [heq]
    exact ⟨rfl, rfl, rfl⟩

end Store

end ExpiringCache
