import ExpiringCache.Proofs.Snapshot.RoundTrip
import ExpiringCache.Proofs.Store.Independent
/-!
# The order of a reload

A reload stores the values of a snapshot one after the other, each with a reading of its own. Their
keys differ, repeated ones being resolved before, so no value is stored over another one. The order
in which they come decides only which reading belongs to which key.
-/

namespace ExpiringCache.Store

open Snapshot

variable {ν : Type} [SnapshotText ν]

/-- A reload that stores the values in the given order. -/
def reloadInOrder (store : Store String ν) (path : String) (policy : SnapshotPolicy)
    (order : Table String String) (clock : Clock) : Reloaded ν :=
  let (store, clock) := store.load order policy.reloadTtl clock
  { entries := order.size, store, clock, event := .snapshotReloaded order.size path }

variable {values first second : Table String String} {ttl : Duration} {clock : Clock}
  {key text : String}

/-! ### Loading -/

theorem get?_load_of_get? (store : Store String ν) (ttl : Duration) (clock : Clock)
    (h : values.get? key = some text) :
    ∃ n < values.size, (store.load values ttl clock).1.table.get? key =
      some { payload := SnapshotText.ofText text, expiresAt := clock.expiry ttl n } := by
  obtain ⟨n, hitem⟩ := List.mem_iff_getElem?.1 (Table.get?_eq_some_iff.1 h)
  have hlt : n < values.size := (List.getElem?_eq_some_iff.1 hitem).1
  exact ⟨n, hlt, get?_load.2 (Or.inl ⟨n, text, hitem, rfl⟩)⟩

theorem notMem_keys_of_get? (h : values.get? key = none) : key ∉ values.keys := fun hmem => by
  obtain ⟨text, htext⟩ := Table.mem_keys_iff.1 hmem
  exact Option.some_ne_none text (htext.symm.trans h)

/-- No payload depends on the order of the values or on a reading. -/
theorem map_payload_get?_load (store : Store String ν) (values : Table String String)
    (ttl : Duration) (clock : Clock) (key : String) :
    ((store.load values ttl clock).1.table.get? key).map (·.payload) =
      ((values.get? key).map SnapshotText.ofText).or ((store.table.get? key).map (·.payload)) := by
  cases htext : values.get? key with
  | none => rw [get?_load_of_notMem (notMem_keys_of_get? htext), Option.map_none, Option.none_or]
  | some text =>
      obtain ⟨n, -, hload⟩ := get?_load_of_get? store ttl clock htext
      rw [hload]
      rfl

theorem get?_load_of_queued_nil (h : clock.queued = []) (store : Store String ν)
    (values : Table String String) (ttl : Duration) (key : String) :
    (store.load values ttl clock).1.table.get? key =
      ((values.get? key).map fun text =>
        { payload := SnapshotText.ofText text, expiresAt := clock.expiry ttl 0 : Entry ν }).or
        (store.table.get? key) := by
  cases htext : values.get? key with
  | none => rw [get?_load_of_notMem (notMem_keys_of_get? htext), Option.map_none, Option.none_or]
  | some text =>
      obtain ⟨n, -, hload⟩ := get?_load_of_get? store ttl clock htext
      rw [hload, Clock.expiry_of_queued_nil h]
      rfl

theorem expiresAt_load_mem_bounds (store : Store String ν) {earliest latest : Instant}
    (hcalendar : Instant.first ≤ latest)
    (hreadings : ∀ now ∈ (clock.readings (Clock.taken ttl values.size)).1,
      earliest ≤ now ∧ now ≤ latest) (hkey : key ∈ values.keys) :
    ∃ entry, (store.load values ttl clock).1.table.get? key = some entry ∧
      earliest.plusCapped ttl ≤ entry.expiresAt ∧ entry.expiresAt ≤ latest.plusCapped ttl := by
  obtain ⟨text, htext⟩ := Table.mem_keys_iff.1 hkey
  obtain ⟨n, hlt, hload⟩ := get?_load_of_get? store ttl clock htext
  refine ⟨_, hload, Clock.expiry_mem_bounds hcalendar fun hshort => ?_⟩
  apply hreadings
  rw [Clock.readings_eq, Clock.taken, if_neg hshort]
  exact List.mem_map_of_mem (List.mem_range.2 hlt)

/-! ### Reloading -/

/-- **The order of a reload makes no difference.** A reload stores the values of the snapshot in
some order. In any two orders, with readings of their own, it returns the same count, leaves the
same payloads and counters and does not touch the other keys. Readings within bounds bound the
expiry of all it stores; at one time the stores agree. -/
theorem reload_in_any_order (store : Store String ν) (path : String) (policy : SnapshotPolicy)
    {bytes : List UInt8} {records : List Record} (hdecode : decode bytes = .ok records)
    {first second : Table String String} (hfirst : first.items.Perm (latest records).items)
    (hsecond : second.items.Perm (latest records).items) (clock later : Clock) :
    let ttl := policy.reloadTtl
    let loaded := store.reloadInOrder path policy first clock
    let other := store.reloadInOrder path policy second later
    store.reload path policy (.ok bytes) clock =
      store.reloadInOrder path policy (latest records) clock ∧
    loaded.clock = (clock.readings (Clock.taken ttl first.size)).2 ∧
    loaded.entries = (records.map Prod.fst).dedup.length ∧ other.entries = loaded.entries ∧
    (∀ key, (loaded.store.table.get? key).map (·.payload) =
      (other.store.table.get? key).map (·.payload)) ∧
    (∀ key, key ∉ records.map Prod.fst → loaded.store.table.get? key = store.table.get? key ∧
      other.store.table.get? key = store.table.get? key) ∧
    (loaded.store.counters = store.counters ∧ other.store.counters = store.counters) ∧
    (∀ earliest latest, Instant.first ≤ latest →
      (∀ now ∈ (clock.readings (Clock.taken ttl first.size)).1, earliest ≤ now ∧ now ≤ latest) →
      ∀ key ∈ records.map Prod.fst, ∃ entry, loaded.store.table.get? key = some entry ∧
        earliest.plusCapped ttl ≤ entry.expiresAt ∧ entry.expiresAt ≤ latest.plusCapped ttl) ∧
    (clock.queued = [] → clock = later → loaded.store.Alike other.store) := by
  intro ttl loaded other
  have horders : first.items.Perm second.items := hfirst.trans hsecond.symm
  have hget : ∀ key, first.get? key = second.get? key := Table.get?_eq_of_perm horders
  have hkeys : ∀ key, key ∈ first.keys ↔ key ∈ records.map Prod.fst := fun key =>
    (hfirst.map Prod.fst).mem_iff.trans mem_keys_latest
  have hkeys' : ∀ key, key ∈ second.keys ↔ key ∈ records.map Prod.fst := fun key =>
    (hsecond.map Prod.fst).mem_iff.trans mem_keys_latest
  have hcounters : loaded.store.counters = store.counters := load_counters store first ttl clock
  have hcounters' : other.store.counters = store.counters := load_counters store second ttl later
  refine ⟨reload_of_decode_eq_ok store path policy hdecode clock, ?_,
    hfirst.length_eq.trans (size_latest records), horders.symm.length_eq, fun key => ?_,
    fun key habsent => ⟨?_, ?_⟩, ⟨hcounters, hcounters'⟩, ?_, ?_⟩
  · rw [Clock.readings_eq]
    exact congrArg Prod.snd (load_eq store first ttl clock)
  · exact (map_payload_get?_load store first ttl clock key).trans
      ((hget key).symm ▸ (map_payload_get?_load store second ttl later key).symm)
  · exact get?_load_of_notMem (habsent ∘ (hkeys key).1)
  · exact get?_load_of_notMem (habsent ∘ (hkeys' key).1)
  · intro earliest latest hcalendar hreadings key hkey
    exact expiresAt_load_mem_bounds store hcalendar hreadings ((hkeys key).2 hkey)
  · rintro hqueued rfl
    refine ⟨fun key => ?_, hcounters.trans hcounters'.symm⟩
    have hloaded := get?_load_of_queued_nil hqueued store first ttl key
    rw [hget] at hloaded
    exact hloaded.trans (get?_load_of_queued_nil hqueued store second ttl key).symm

/-- One key is repeated in the snapshot and another one is in the store already; the clock goes
backwards between the two values. -/
theorem reload_in_any_order_of_repeated_key :
    let records : List Record := [("a", "1"), ("b", "2"), ("a", "3")]
    let entry : Entry String := { payload := "old", expiresAt := .ofNanos 1 }
    let store : Store String String := { table := { items := [("b", entry), ("c", entry)] } }
    let first : Table String String := { items := [("b", "2"), ("a", "3")] }
    let second : Table String String := { items := [("a", "3"), ("b", "2")] }
    let policy : SnapshotPolicy := { reloadTtl := .ofSeconds 1 }
    let clock : Clock := { queued := [.ofNanos 7], steady := .ofNanos 5 }
    let loaded := store.reloadInOrder "p" policy first clock
    let other := store.reloadInOrder "p" policy second clock
    decode (encode records) = .ok records ∧
    first.items.Perm (latest records).items ∧ second.items.Perm (latest records).items ∧
    loaded.entries = 2 ∧
    (loaded.store.table.get? "a").map (·.payload) = (other.store.table.get? "a").map (·.payload) ∧
    (∃ found, loaded.store.table.get? "b" = some found ∧
      (Instant.ofNanos 5).plusCapped policy.reloadTtl ≤ found.expiresAt) := by
  intro records entry store first second policy clock loaded other
  have hdecode : decode (encode records) = .ok records := decode_encode_of_length_lt (by decide)
  have hfirst : first.items.Perm (latest records).items := by decide
  have hsecond : second.items.Perm (latest records).items := by decide
  obtain ⟨-, -, hentries, -, hpayload, -, -, hbounds, -⟩ :=
    reload_in_any_order store "p" policy hdecode hfirst hsecond clock clock
  obtain ⟨found, hfound, hexpiry, -⟩ :=
    hbounds (.ofNanos 5) (.ofNanos 7) (by decide) (by decide) "b" (by decide)
  exact ⟨hdecode, hfirst, hsecond, hentries.trans (by decide), hpayload "a", found, hfound, hexpiry⟩

end ExpiringCache.Store
