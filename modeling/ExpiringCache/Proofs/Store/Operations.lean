import ExpiringCache.Proofs.Readings
import ExpiringCache.Proofs.Table
import ExpiringCache.Snapshot.Persistence
/-!
# What the operations do to a key

One description for each operation of a store, through `Table.get?` and the numbered readings of the
clock. Proofs about runs cite these and open no operation.
-/

namespace ExpiringCache

namespace Entry

variable {κ ν : Type}

/-- The entries of pairs written one after the other, each with its own reading. -/
def freshAll (ttl : Duration) (clock : Clock) (pairs : List (κ × ν)) : List (κ × Entry ν) :=
  pairs.mapIdx fun n pair => (pair.1, { payload := pair.2, expiresAt := clock.expiry ttl n })

theorem fresh_eq (payload : ν) (ttl : Duration) (clock : Clock) :
    fresh payload ttl clock =
      ({ payload, expiresAt := clock.expiry ttl 0 }, clock.skip (Clock.taken ttl 1)) := by
  simp only [fresh, Clock.deadline_eq]

theorem freshAll_cons (ttl : Duration) (clock : Clock) (pair : κ × ν) (rest : List (κ × ν)) :
    freshAll ttl clock (pair :: rest) =
      (pair.1, { payload := pair.2, expiresAt := clock.expiry ttl 0 }) ::
        freshAll ttl (clock.skip (Clock.taken ttl 1)) rest := by
  simp only [freshAll, List.mapIdx_cons, Clock.expiry_skip_taken]

@[simp]
theorem map_fst_freshAll (ttl : Duration) (clock : Clock) (pairs : List (κ × ν)) :
    (freshAll ttl clock pairs).map Prod.fst = pairs.map Prod.fst := by
  refine List.ext_getElem? fun n => ?_
  simp only [freshAll, List.getElem?_map, List.getElem?_mapIdx, Option.map_map]
  rfl

theorem mem_freshAll {ttl : Duration} {clock : Clock} {pairs : List (κ × ν)} {key : κ}
    {entry : Entry ν} :
    (key, entry) ∈ freshAll ttl clock pairs ↔
      ∃ n payload, pairs[n]? = some (key, payload) ∧
        entry = { payload, expiresAt := clock.expiry ttl n } := by
  simp only [List.mem_iff_getElem?, freshAll, List.getElem?_mapIdx, Option.map_eq_some_iff]
  constructor
  · rintro ⟨n, ⟨found, payload⟩, hpair, hentry⟩
    obtain ⟨rfl, rfl⟩ := Prod.mk.inj hentry
    exact ⟨n, payload, hpair, rfl⟩
  · rintro ⟨n, payload, hpair, rfl⟩
    exact ⟨n, (key, payload), hpair, rfl⟩

end Entry

namespace Store

/-! ### Sweeps -/

section Purge

variable {κ ν : Type}

theorem mem_survivors {items : List (κ × Entry ν)} {readings : List Instant}
    {item : κ × Entry ν} :
    item ∈ survivors items readings ↔
      ∃ (n : Nat) (now : Instant), items[n]? = some item ∧ readings[n]? = some now ∧
        ¬item.2.ExpiredAt now := by
  rw [survivors, List.mem_map]
  constructor
  · rintro ⟨⟨found, now⟩, hfound, rfl⟩
    obtain ⟨hmem, hlive⟩ := List.mem_filter.1 hfound
    obtain ⟨n, hn⟩ := List.mem_iff_getElem?.1 hmem
    obtain ⟨hitem, hnow⟩ := List.getElem?_zip_eq_some.1 hn
    exact ⟨n, now, hitem, hnow, of_decide_eq_true hlive⟩
  · rintro ⟨n, now, hitem, hnow, hlive⟩
    have hmem : (item, now) ∈ items.zip readings :=
      List.mem_of_getElem? (List.getElem?_zip_eq_some.2 ⟨hitem, hnow⟩)
    exact ⟨(item, now), List.mem_filter.2 ⟨hmem, decide_eq_true hlive⟩, rfl⟩

theorem purge_eq (store : Store κ ν) (clock : Clock) :
    store.purge clock =
      let kept := store.retain ((List.range store.size).map clock.reading)
      (store.size - kept.size, kept, clock.skip store.size) := by
  rw [purge, Clock.readings_eq]

/-- A purge keeps the items whose own reading, by their place, is not past their expiry. -/
theorem mem_items_purge {store : Store κ ν} {clock : Clock} {item : κ × Entry ν} :
    item ∈ (store.purge clock).2.1.table.items ↔
      ∃ n, store.table.items[n]? = some item ∧ ¬item.2.ExpiredAt (clock.reading n) := by
  rw [purge_eq]
  change item ∈ survivors store.table.items ((List.range store.table.items.length).map _) ↔ _
  rw [mem_survivors]
  constructor
  · rintro ⟨n, now, hitem, hnow, hlive⟩
    have hlt : n < store.table.items.length := (List.getElem?_eq_some_iff.1 hitem).1
    simp only [List.getElem?_map, List.getElem?_range hlt, Option.map_some] at hnow
    obtain rfl := Option.some.inj hnow
    exact ⟨n, hitem, hlive⟩
  · rintro ⟨n, hitem, hlive⟩
    have hlt : n < store.table.items.length := (List.getElem?_eq_some_iff.1 hitem).1
    refine ⟨n, clock.reading n, hitem, ?_, hlive⟩
    simp only [List.getElem?_map, List.getElem?_range hlt, Option.map_some]

end Purge

variable {κ ν : Type} [DecidableEq κ]

theorem get?_purge {store : Store κ ν} {clock : Clock} {key : κ} {entry : Entry ν} :
    (store.purge clock).2.1.table.get? key = some entry ↔
      store.table.get? key = some entry ∧
        ¬∃ n, store.table.items[n]? = some (key, entry) ∧ entry.ExpiredAt (clock.reading n) := by
  rw [Table.get?_eq_some_iff, Table.get?_eq_some_iff, mem_items_purge]
  have hitems : store.table.items.Nodup := List.Nodup.of_map Prod.fst store.table.nodup_keys
  constructor
  · rintro ⟨n, hitem, hlive⟩
    refine ⟨List.mem_of_getElem? hitem, ?_⟩
    rintro ⟨m, hitem', hexpired⟩
    have hlt : n < store.table.items.length := (List.getElem?_eq_some_iff.1 hitem).1
    have hplace : n = m := (List.getElem?_inj hlt hitems).1 (hitem.trans hitem'.symm)
    exact hlive (hplace ▸ hexpired)
  · rintro ⟨hmem, hlive⟩
    obtain ⟨n, hitem⟩ := List.mem_iff_getElem?.1 hmem
    exact ⟨n, hitem, fun hexpired => hlive ⟨n, hitem, hexpired⟩⟩

/-! ### Writes -/

theorem put_eq (store : Store κ ν) (key : κ) (payload : ν) (ttl : Duration) (clock : Clock) :
    store.put key payload ttl clock =
      (store.insert key { payload, expiresAt := clock.expiry ttl 0 },
        clock.skip (Clock.taken ttl 1)) := by
  simp only [put, Entry.fresh_eq]

theorem putAll_eq (store : Store κ ν) (ttl : Duration) (clock : Clock) (pairs : List (κ × ν)) :
    store.putAll ttl clock pairs =
      ({ store with table := store.table.insertAll (Entry.freshAll ttl clock pairs) },
        clock.skip (Clock.taken ttl pairs.length)) := by
  induction pairs generalizing store clock with
  | nil =>
      have htaken : Clock.taken ttl 0 = 0 := by simp [Clock.taken]
      rw [List.length_nil, htaken, Clock.skip_zero]
      rfl
  | cons pair rest ih =>
      obtain ⟨key, payload⟩ := pair
      have htaken := Clock.taken_succ ttl rest.length
      simp only [putAll, put_eq, ih, Clock.skip_skip, Entry.freshAll_cons, List.length_cons, htaken,
        insert, Table.insertAll, List.foldl_cons]

/-! ### Lookups -/

theorem lookup_of_none {store : Store κ ν} {key : κ} (h : store.table.get? key = none)
    (clock : Clock) : store.lookup key clock = (none, store.recordMiss, clock) := by
  rw [lookup, h]

theorem lookup_of_live {store : Store κ ν} {key : κ} {entry : Entry ν}
    (h : store.table.get? key = some entry) {clock : Clock}
    (hlive : ¬entry.ExpiredAt (clock.reading 0)) :
    store.lookup key clock = (some entry, store.recordHit, clock.skip 1) := by
  simp only [lookup, h, Clock.read_eq, if_neg hlive]

theorem lookup_of_expired {store : Store κ ν} {key : κ} {entry : Entry ν}
    (h : store.table.get? key = some entry) {clock : Clock}
    (hexpired : entry.ExpiredAt (clock.reading 0)) :
    store.lookup key clock =
      (none, (store.evictExpired key (clock.reading 1)).recordMiss, clock.skip 2) := by
  simp only [lookup, h, Clock.read_eq, if_pos hexpired, Clock.reading_skip, Clock.skip_skip]

theorem lookup_fst_eq_some_iff {store : Store κ ν} {key : κ} {clock : Clock} {entry : Entry ν} :
    (store.lookup key clock).1 = some entry ↔
      store.table.get? key = some entry ∧ clock.reading 0 ≤ entry.expiresAt := by
  cases h : store.table.get? key with
  | none => simp [lookup_of_none h]
  | some found =>
      by_cases hexpired : found.ExpiredAt (clock.reading 0)
      · rw [lookup_of_expired h hexpired]
        constructor
        · exact fun hnone => (Option.some_ne_none entry hnone.symm).elim
        · rintro ⟨hfound, hlive⟩
          obtain rfl := Option.some.inj hfound
          exact (Entry.not_expiredAt.2 hlive hexpired).elim
      · rw [lookup_of_live h hexpired]
        constructor
        · intro hfound
          obtain rfl := Option.some.inj hfound
          exact ⟨rfl, Entry.not_expiredAt.1 hexpired⟩
        · exact fun hfound => hfound.1

theorem get?_evictExpired_of_ne (store : Store κ ν) {key key' : κ} (hne : key ≠ key')
    (now : Instant) :
    (store.evictExpired key' now).table.get? key = store.table.get? key := by
  unfold evictExpired
  split
  · rfl
  · split
    · exact Table.get?_erase_of_ne _ hne
    · rfl

theorem get?_evictExpired_self {store : Store κ ν} {key : κ} {now : Instant}
    {entry : Entry ν} :
    (store.evictExpired key now).table.get? key = some entry ↔
      store.table.get? key = some entry ∧ ¬entry.ExpiredAt now := by
  unfold evictExpired
  split
  · rename_i h
    simp [h]
  · rename_i found h
    split
    · rename_i hexpired
      rw [Table.get?_erase_self, h]
      constructor
      · exact fun hnone => (Option.some_ne_none entry hnone.symm).elim
      · rintro ⟨hfound, hlive⟩
        exact (hlive (Option.some.inj hfound ▸ hexpired)).elim
    · rename_i hlive
      rw [h]
      constructor
      · exact fun hfound => ⟨hfound, Option.some.inj hfound ▸ hlive⟩
      · exact fun hfound => hfound.1

/-- A lookup removes the entry it looks for if both readings are past its expiry. -/
theorem get?_lookup {store : Store κ ν} {key key' : κ} {clock : Clock} {entry : Entry ν} :
    (store.lookup key' clock).2.1.table.get? key = some entry ↔
      store.table.get? key = some entry ∧
        ¬(key' = key ∧ entry.ExpiredAt (clock.reading 0) ∧ entry.ExpiredAt (clock.reading 1)) := by
  cases h : store.table.get? key' with
  | none =>
      rw [lookup_of_none h]
      change store.table.get? key = some entry ↔ _
      refine ⟨fun hfound => ⟨hfound, ?_⟩, And.left⟩
      rintro ⟨rfl, -⟩
      exact Option.some_ne_none entry (hfound.symm.trans h)
  | some found =>
      by_cases hexpired : found.ExpiredAt (clock.reading 0)
      · rw [lookup_of_expired h hexpired]
        change (store.evictExpired key' _).table.get? key = some entry ↔ _
        by_cases hkey : key' = key
        · subst hkey
          rw [get?_evictExpired_self]
          refine and_congr_right fun hfound => not_congr ?_
          obtain rfl : found = entry := Option.some.inj (h.symm.trans hfound)
          simp only [hexpired, true_and]
        · rw [get?_evictExpired_of_ne _ (Ne.symm hkey)]
          simp [hkey]
      · rw [lookup_of_live h hexpired]
        change store.table.get? key = some entry ↔ _
        refine ⟨fun hfound => ⟨hfound, ?_⟩, And.left⟩
        rintro ⟨rfl, hpast, -⟩
        exact hexpired (Option.some.inj (h.symm.trans hfound) ▸ hpast)

theorem get?_delete {store : Store κ ν} {key key' : κ} {entry : Entry ν} :
    (store.delete key').2.table.get? key = some entry ↔
      store.table.get? key = some entry ∧ ¬key' = key := by
  change (store.table.erase key').get? key = some entry ↔ _
  by_cases hkey : key' = key
  · subst hkey
    simp
  · rw [Table.get?_erase_of_ne _ (Ne.symm hkey)]
    simp [hkey]

/-! ### Reloads -/

section Reload

variable {ν : Type} [SnapshotText ν]

theorem load_eq (store : Store String ν) (values : Table String String) (ttl : Duration)
    (clock : Clock) :
    store.load values ttl clock =
      ({ store with
          table := store.table.insertAll (Entry.freshAll ttl clock
            (values.items.map fun item => (item.1, SnapshotText.ofText item.2))) },
        clock.skip (Clock.taken ttl values.size)) := by
  rw [load, putAll_eq, List.length_map]
  rfl

theorem map_fst_freshAll_items (values : Table String String) (ttl : Duration) (clock : Clock) :
    (Entry.freshAll ttl clock (values.items.map fun item =>
      (item.1, (SnapshotText.ofText item.2 : ν)))).map Prod.fst = values.keys := by
  rw [Entry.map_fst_freshAll, List.map_map]
  rfl

/-- Loading stores each value with its own reading, by its place, and leaves the other keys. -/
theorem get?_load {store : Store String ν} {values : Table String String} {ttl : Duration}
    {clock : Clock} {key : String} {entry : Entry ν} :
    (store.load values ttl clock).1.table.get? key = some entry ↔
      (∃ n text, values.items[n]? = some (key, text) ∧
        entry = { payload := SnapshotText.ofText text, expiresAt := clock.expiry ttl n }) ∨
      (key ∉ values.keys ∧ store.table.get? key = some entry) := by
  have hkeys : (Entry.freshAll ttl clock (values.items.map fun item =>
      (item.1, (SnapshotText.ofText item.2 : ν)))).map Prod.fst = values.keys :=
    map_fst_freshAll_items values ttl clock
  have hnodup : values.keys.Nodup := values.nodup_keys
  rw [load_eq, Table.get?_insertAll, Option.or_eq_some_iff, Table.lastValue?_eq_none_iff, hkeys,
    Table.lastValue?_eq_some_iff_mem (by rwa [hkeys]), Entry.mem_freshAll]
  refine or_congr_left (exists_congr fun n => ?_)
  simp only [List.getElem?_map, Option.map_eq_some_iff]
  constructor
  · rintro ⟨payload, ⟨⟨found, text⟩, hitem, hpair⟩, rfl⟩
    obtain ⟨rfl, rfl⟩ := Prod.mk.inj hpair
    exact ⟨text, hitem, rfl⟩
  · rintro ⟨text, hitem, rfl⟩
    exact ⟨_, ⟨(key, text), hitem, rfl⟩, rfl⟩

theorem reload_of_decode_eq_ok (store : Store String ν) (path : String) (policy : SnapshotPolicy)
    {bytes : List UInt8} {records : List Snapshot.Record}
    (h : Snapshot.decode bytes = .ok records) (clock : Clock) :
    store.reload path policy (.ok bytes) clock =
      { entries := (Snapshot.latest records).size
        store := (store.load (Snapshot.latest records) policy.reloadTtl clock).1
        clock := (store.load (Snapshot.latest records) policy.reloadTtl clock).2
        event := .snapshotReloaded (Snapshot.latest records).size path } := by
  simp only [reload, h]

theorem reload_of_flawed (store : Store String ν) (path : String) (policy : SnapshotPolicy)
    {content : Except IoError (List UInt8)}
    (h : ∀ bytes records, content = .ok bytes → Snapshot.decode bytes ≠ .ok records)
    (clock : Clock) :
    ∃ event, store.reload path policy content clock = { entries := 0, store, clock, event } := by
  cases content with
  | error error => exact ⟨_, rfl⟩
  | ok bytes =>
      cases hdecode : Snapshot.decode bytes with
      | error error =>
          refine ⟨.snapshotUndecodable path error, ?_⟩
          simp only [reload, hdecode]
      | ok records => exact (h bytes records rfl hdecode).elim

end Reload

end Store

end ExpiringCache
