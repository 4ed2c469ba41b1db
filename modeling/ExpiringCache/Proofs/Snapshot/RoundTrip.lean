import ExpiringCache.Cache
import ExpiringCache.Proofs.Disk
import ExpiringCache.Proofs.Snapshot.Reload
import Mathlib.Algebra.GroupWithZero.Nat
import Mathlib.Algebra.Order.BigOperators.Group.List
import Mathlib.Algebra.Order.Group.Nat
/-!
# Saving and reloading

What a store saves and another reloads: the texts under the accepted keys, as if they were put now.
The image is read back whatever the order of its records, because its keys are distinct; the numbers
in it are large enough because it fits a file.
-/

namespace ExpiringCache

namespace Snapshot

theorem length_encodeRecord (record : Record) :
    (encodeRecord record).length =
      16 + (Utf8.encode record.1).length + (Utf8.encode record.2).length := by
  simp only [encodeRecord, encodeBytes, List.length_append, length_encodeWord, wordSize]
  omega

theorem length_encode (records : List Record) :
    (encode records).length = 8 + (records.map fun record => (encodeRecord record).length).sum := by
  rw [encode, List.length_append, length_encodeWord, List.length_flatMap, wordSize]

theorem length_encode_of_perm {first second : List Record} (h : first.Perm second) :
    (encode first).length = (encode second).length := by
  rw [length_encode, length_encode, (h.map _).sum_nat]

/-- An image whose length is a 64-bit number holds no larger numbers. -/
theorem fits_of_length_encode_lt {records : List Record}
    (h : (encode records).length < UInt64.size) :
    records.length < UInt64.size ∧ ∀ record ∈ records, Fits record := by
  rw [length_encode] at h
  constructor
  · have hlength : records.length ≤
        (records.map fun record => (encodeRecord record).length).sum := by
      have hle := List.length_le_sum_of_one_le
        (records.map fun record => (encodeRecord record).length) ?_
      · rwa [List.length_map] at hle
      · intro n hn
        obtain ⟨record, -, rfl⟩ := List.mem_map.1 hn
        rw [length_encodeRecord]
        omega
    omega
  · intro record hmem
    have hrecord : (encodeRecord record).length ≤
        (records.map fun record => (encodeRecord record).length).sum :=
      List.single_le_sum (fun _ _ => Nat.zero_le _) _ (List.mem_map_of_mem hmem)
    rw [length_encodeRecord] at hrecord
    constructor <;> omega

theorem decode_encode_of_length_lt {records : List Record}
    (h : (encode records).length < UInt64.size) : decode (encode records) = .ok records := by
  obtain ⟨hcount, hfits⟩ := fits_of_length_encode_lt h
  have hdecode := decode_encode_append hcount hfits []
  rwa [List.append_nil] at hdecode

theorem latest_perm {records : List Record} (h : (records.map Prod.fst).Nodup) :
    (latest records).items.Perm records := by
  have hitems : (latest records).items.Nodup :=
    List.Nodup.of_map Prod.fst (latest records).nodup_keys
  refine (List.perm_ext_iff_of_nodup hitems (List.Nodup.of_map Prod.fst h)).2 ?_
  rintro ⟨key, text⟩
  rw [← Table.get?_eq_some_iff, get?_latest, Table.lastValue?_eq_some_iff_mem h]

end Snapshot

namespace Store

open Snapshot

variable {ν : Type} [SnapshotText ν]

/-- The policy takes the key, and the payload under it has the text. -/
def Saves (store : Store String ν) (policy : SnapshotPolicy) (key text : String) : Prop :=
  policy.filter.accepts key = true ∧
    ∃ entry, store.table.get? key = some entry ∧ SnapshotText.toText? entry.payload = some text

theorem mem_records {store : Store String ν} {policy : SnapshotPolicy} {key text : String} :
    (key, text) ∈ store.records policy ↔ store.Saves policy key text := by
  rw [records, List.mem_filterMap]
  constructor
  · rintro ⟨⟨found, entry⟩, hitem, hrecord⟩
    simp only at hrecord
    split at hrecord
    · rename_i haccepts
      obtain ⟨words, htext, hpair⟩ := Option.map_eq_some_iff.1 hrecord
      obtain ⟨rfl, rfl⟩ := Prod.mk.inj hpair
      exact ⟨haccepts, entry, Table.get?_eq_some_iff.2 hitem, htext⟩
    · cases hrecord
  · rintro ⟨haccepts, entry, hentry, htext⟩
    refine ⟨(key, entry), Table.get?_eq_some_iff.1 hentry, ?_⟩
    simp only [if_pos haccepts, htext, Option.map_some]

theorem nodup_keys_records (store : Store String ν) (policy : SnapshotPolicy) :
    ((store.records policy).map Prod.fst).Nodup := by
  refine store.table.nodup_keys.sublist ?_
  rw [records, List.map_filterMap]
  induction store.table.items with
  | nil => exact List.Sublist.refl _
  | cons item rest ih =>
      obtain ⟨key, entry⟩ := item
      rw [List.filterMap_cons, List.map_cons]
      by_cases haccepts : policy.filter.accepts key = true
      · cases htext : SnapshotText.toText? entry.payload with
        | none => simpa [haccepts, htext] using ih.cons key
        | some text => simpa [haccepts, htext] using ih
      · simpa [haccepts] using ih.cons key

theorem length_records (store : Store String ν) (policy : SnapshotPolicy) :
    (store.records policy).length =
      store.table.items.countP fun item =>
        policy.filter.accepts item.1 && (SnapshotText.toText? item.2.payload).isSome := by
  rw [records, List.length_filterMap_eq_countP]
  refine List.countP_congr fun item _ => ?_
  by_cases haccepts : policy.filter.accepts item.1 = true <;> simp [haccepts]

/-- What a reload makes of an image whose records are those of a store, in any order. -/
theorem reload_encode_of_perm {μ : Type} [SnapshotText μ] (source : Store String ν)
    (target : Store String μ) (written read : SnapshotPolicy) (path : String) (clock : Clock)
    {order : List Record}
    (horder : order.Perm (source.records written)) (hsize : (encode order).length < UInt64.size) :
    let reloaded := target.reload path read (.ok (encode order)) clock
    reloaded.entries = (source.records written).length ∧
    (∃ keys : List String, keys.Nodup ∧ keys.length = (source.records written).length ∧
      (∀ key, key ∈ keys ↔ ∃ text, source.Saves written key text) ∧
      ∀ n key text, keys[n]? = some key → source.Saves written key text →
        reloaded.store.table.get? key =
          some { payload := (SnapshotText.ofText text : μ)
                 expiresAt := clock.expiry read.reloadTtl n }) ∧
    (∀ key, (∀ text, ¬source.Saves written key text) →
      reloaded.store.table.get? key = target.table.get? key) ∧
    reloaded.store.counters = target.counters := by
  have hnodup : (order.map Prod.fst).Nodup :=
    (horder.map Prod.fst).nodup_iff.2 (nodup_keys_records source written)
  have hperm : (latest order).items.Perm (source.records written) :=
    (latest_perm hnodup).trans horder
  have hmem : ∀ key text, (key, text) ∈ (latest order).items ↔ source.Saves written key text :=
    fun key text => hperm.mem_iff.trans mem_records
  have hkeys : ∀ key, key ∈ (latest order).keys ↔ ∃ text, source.Saves written key text := by
    intro key
    simp only [Table.mem_keys_iff, Table.get?_eq_some_iff, hmem]
  rw [reload_of_decode_eq_ok target path read (decode_encode_of_length_lt hsize)]
  refine ⟨hperm.length_eq, ⟨(latest order).keys, (latest order).nodup_keys, ?_, hkeys, ?_⟩, ?_,
    load_counters _ _ _ _⟩
  · rw [Table.keys, List.length_map, hperm.length_eq]
  · intro n key text hkey hsaves
    -- The key stands at one place only, so the item there is the saved one.
    rw [Table.keys, List.getElem?_map, Option.map_eq_some_iff] at hkey
    obtain ⟨⟨found, value⟩, hitem, rfl⟩ := hkey
    refine get?_load.2 (Or.inl ⟨n, text, ?_, rfl⟩)
    have hvalue := Table.get?_eq_some_iff.2 (List.mem_of_getElem? hitem)
    have htext := Table.get?_eq_some_iff.2 ((hmem found text).2 hsaves)
    rw [hitem, Option.some.inj (hvalue.symm.trans htext)]
  · intro key hnone
    refine get?_load_of_notMem fun hkey => ?_
    obtain ⟨text, hsaves⟩ := (hkeys key).1 hkey
    exact hnone text hsaves

theorem reload_with_filter (store : Store String ν) (path : String) (policy : SnapshotPolicy)
    (filter : KeyFilter) (content : Except IoError (List UInt8)) (clock : Clock) :
    store.reload path { policy with filter } content clock =
      store.reload path policy content clock := rfl

/-- **Saving and reloading.** A cache saves the texts under the accepted keys, expired ones too, and
stays as it is. From the file, whatever the order of its records, a store of any payloads gets these
texts, each with a lifetime of its own from the reading on that belongs to it; its other keys and
its counters stay, and the filter of the policy that it reloads with plays no role. -/
theorem reload_after_save {μ : Type} [SnapshotText μ] (cache : Cache ν) (target : Store String μ)
    (written read : SnapshotPolicy) (path : String) (disk : Disk) (now turn : Nat)
    (clock later : Clock) (order : List Record) (hpath : disk.IsFilePath path)
    (hsize : (cache.store.image written).length < UInt64.size)
    (horder : order.Perm (cache.store.records written)) :
    let count := cache.store.table.items.countP fun item =>
      written.filter.accepts item.1 && (SnapshotText.toText? item.2.payload).isSome
    (∃ saved, disk.write path (cache.store.image written) = .ok saved ∧
      cache.run now turn clock disk (.save path written) =
        { reply := .entries count, cache? := some cache, clock, disk := saved
          log := [.snapshotSaved count path] }) ∧
    ∃ saved, disk.write path (encode order) = .ok saved ∧
      let reloaded := target.reload path read (saved.read path) later
      reloaded.entries = count ∧
      (∃ keys : List String, keys.Nodup ∧ keys.length = count ∧
        (∀ key, key ∈ keys ↔ ∃ text, cache.store.Saves written key text) ∧
        ∀ n key text, keys[n]? = some key → cache.store.Saves written key text →
          reloaded.store.table.get? key =
            some { payload := (SnapshotText.ofText text : μ)
                   expiresAt := later.expiry read.reloadTtl n }) ∧
      (∀ key, (∀ text, ¬cache.store.Saves written key text) →
        reloaded.store.table.get? key = target.table.get? key) ∧
      reloaded.store.counters = target.counters ∧
      ∀ filter, target.reload path { read with filter } (saved.read path) later = reloaded := by
  intro count
  have hcount : (cache.store.records written).length = count := length_records _ _
  constructor
  · obtain ⟨saved, hwrite, -⟩ := Disk.read_write hpath (cache.store.image written)
    refine ⟨saved, hwrite, ?_⟩
    simp only [Cache.run, save, hwrite, hcount]
  · obtain ⟨saved, hwrite, hread⟩ := Disk.read_write hpath (encode order)
    have hlength : (encode order).length < UInt64.size := by
      rwa [length_encode_of_perm horder]
    obtain ⟨hentries, hstored, hothers, hcounters⟩ :=
      reload_encode_of_perm cache.store target written read path later horder hlength
    rw [hcount] at hentries hstored
    refine ⟨saved, hwrite, ?_⟩
    rw [hread]
    exact ⟨hentries, hstored, hothers, hcounters,
      fun filter => reload_with_filter target path read filter _ later⟩

/-- An empty text, a text of three bytes and a number. -/
def mixedStore : Store String Payload where
  table :=
    (∅ : Table String (Entry Payload)).insert "é"
        { payload := .text "", expiresAt := .ofNanos 1 }
      |>.insert "k" { payload := .number 7, expiresAt := .ofNanos 2 }
      |>.insert "x" { payload := .text "€", expiresAt := .ofNanos 3 }

theorem perm_records_mixedStore :
    [("é", ""), ("x", "€")].Perm (mixedStore.records { filter := .all }) := by
  have hrecords : mixedStore.records { filter := .all } = [("x", "€"), ("é", "")] := by decide
  rw [hrecords]
  exact List.Perm.swap _ _ []

theorem reload_after_save_of_mixedStore :
    Disk.blank.IsFilePath "a" ∧ (mixedStore.image { filter := .all }).length < UInt64.size ∧
      [("é", ""), ("x", "€")].Perm (mixedStore.records { filter := .all }) ∧
        ∃ saved, Disk.blank.write "a" (encode [("é", ""), ("x", "€")]) = .ok saved ∧
          (({} : Store String String).reload "a" {} (saved.read "a")
            { steady := { seconds := 9 } }).entries = 2 := by
  have hsize : (mixedStore.image { filter := .all }).length < UInt64.size := by decide
  obtain ⟨-, saved, hwrite, hentries, -⟩ :=
    reload_after_save { store := mixedStore } ({} : Store String String) { filter := .all } {} "a"
      Disk.blank 0 0 { steady := { seconds := 0 } } { steady := { seconds := 9 } } _
      Disk.isFilePath_blank hsize perm_records_mixedStore
  exact ⟨Disk.isFilePath_blank, hsize, perm_records_mixedStore, saved, hwrite,
    hentries.trans (by decide)⟩

end Store

end ExpiringCache
