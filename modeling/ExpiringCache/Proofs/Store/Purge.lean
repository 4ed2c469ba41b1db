import ExpiringCache.Proofs.Store.Independent
import ExpiringCache.Proofs.Table
/-!
# Purges under a moving clock

A purge checks every entry against a reading of its own. `Store.PurgedBy` says what it leaves, key
by key, so the order in which it comes to the entries plays no role, nor does the way in which the
clock moves meanwhile. Two purges, each at one time, add up to the later of them.
-/

namespace ExpiringCache.Store

variable {κ ν : Type} [DecidableEq κ]

/-- The store as it is visited when its entries come in the given order. -/
def inOrder (store : Store κ ν) (order : Table κ (Entry ν)) : Store κ ν :=
  { store with table := order }

/-- What a purge leaves that checks each entry against the reading of its key. -/
structure PurgedBy (reading : κ → Instant) (before : Store κ ν) (removed : Nat)
    (after : Store κ ν) : Prop where
  get?_eq : ∀ key, after.table.get? key =
    (before.table.get? key).filter fun entry => ¬entry.ExpiredAt (reading key)
  size_eq : removed + after.size = before.size
  counters_eq : after.counters =
    { before.counters with swept := before.counters.swept + removed }

variable {store before between after other : Store κ ν} {reading : κ → Instant}
  {removed removed' : Nat} {key : κ} {entry : Entry ν} {now later : Instant}

/-! ### One purge -/

theorem getElem?_readings (clock : Clock) {n i : Nat} (h : i < n) :
    (clock.readings n).1[i]? = some (clock.reading i) := by
  rw [Clock.readings_eq, List.getElem?_map, List.getElem?_range h, Option.map_some]

theorem purgedBy_purge {clock : Clock}
    (hreadings : (clock.readings store.size).1 = store.table.keys.map reading) :
    store.PurgedBy reading (store.purge clock).1 (store.purge clock).2.1 := by
  have hreading : ∀ n item, store.table.items[n]? = some item →
      clock.reading n = reading item.1 := by
    intro n item hitem
    have hlt : n < store.size := (List.getElem?_eq_some_iff.1 hitem).1
    have hn := getElem?_readings clock hlt
    rw [hreadings, Table.keys, List.map_map, List.getElem?_map, hitem] at hn
    exact (Option.some.inj hn).symm
  have hle : (store.purge clock).2.1.size ≤ store.size :=
    (survivors_sublist store.table.items _).length_le
  refine ⟨fun key => Option.ext fun entry => ?_, Nat.sub_add_cancel hle, rfl⟩
  rw [get?_purge, Option.filter_eq_some_iff, decide_eq_true_eq]
  refine and_congr_right fun hfound => not_congr ?_
  constructor
  · rintro ⟨n, hitem, hexpired⟩
    rwa [hreading n _ hitem] at hexpired
  · intro hexpired
    obtain ⟨n, hitem⟩ := List.mem_iff_getElem?.1 (Table.get?_eq_some_iff.1 hfound)
    exact ⟨n, hitem, by rwa [hreading n _ hitem]⟩

theorem purgedBy_purge_steady (store : Store κ ν) (now : Instant) :
    store.PurgedBy (fun _ => now) (store.purge { steady := now }).1
      (store.purge { steady := now }).2.1 := by
  have hreading : ({ steady := now } : Clock).reading = fun _ => now :=
    funext (Clock.reading_of_queued_nil rfl)
  apply purgedBy_purge
  rw [Clock.readings_eq, hreading, List.map_const', List.length_range, List.map_const',
    Table.keys, List.length_map]
  rfl

theorem PurgedBy.removed_eq (h : before.PurgedBy reading removed after) :
    removed = before.table.items.countP fun item => item.2.ExpiredAt (reading item.1) := by
  let live : κ × Entry ν → Bool := fun item => ¬item.2.ExpiredAt (reading item.1)
  have hkept : after.size = before.table.items.countP live := by
    have hfilter : after.table.size = (before.table.filter live).size :=
      Table.size_eq_of_get?_eq fun key => (h.get?_eq key).trans (Table.get?_filter _ live key).symm
    exact hfilter.trans List.countP_eq_length_filter.symm
  have hsplit := List.length_eq_countP_add_countP live (l := before.table.items)
  have hexpired : (before.table.items.countP fun item => !live item) =
      before.table.items.countP fun item => item.2.ExpiredAt (reading item.1) :=
    List.countP_congr fun item _ => by simp [live]
  have hsize : removed + after.size = before.table.items.length := h.size_eq
  simp only [Bool.not_eq_true, Bool.decide_eq_false] at hsplit
  omega

theorem PurgedBy.get?_eq_none (h : before.PurgedBy reading removed after)
    (hfound : before.table.get? key = some entry) (hexpired : entry.ExpiredAt (reading key)) :
    after.table.get? key = none := by
  rw [h.get?_eq, hfound]
  exact Option.filter_some_neg (by simpa using hexpired)

theorem PurgedBy.get?_eq_some (h : before.PurgedBy reading removed after)
    (hfound : before.table.get? key = some entry) (hlive : ¬entry.ExpiredAt (reading key)) :
    after.table.get? key = some entry := by
  rw [h.get?_eq, hfound]
  exact Option.filter_some_pos (by simpa using hlive)

/-! ### Orders -/

theorem PurgedBy.of_perm {order : Table κ (Entry ν)}
    (horder : order.items.Perm store.table.items)
    (h : (store.inOrder order).PurgedBy reading removed after) :
    store.PurgedBy reading removed after where
  get?_eq key := by
    rw [h.get?_eq, ← Table.get?_eq_of_perm horder]
    rfl
  size_eq := h.size_eq.trans horder.length_eq
  counters_eq := h.counters_eq

/-- Purges that check the entries against the same readings come to the same. -/
theorem PurgedBy.unique (h : before.PurgedBy reading removed after)
    (h' : before.PurgedBy reading removed' other) : removed = removed' ∧ after.Alike other := by
  have hget : ∀ key, after.table.get? key = other.table.get? key := fun key => by
    rw [h.get?_eq, h'.get?_eq]
  have hsize : after.size = other.size := Table.size_eq_of_get?_eq hget
  have hremoved : removed = removed' := by
    have hfirst := h.size_eq
    have hsecond := h'.size_eq
    omega
  refine ⟨hremoved, hget, ?_⟩
  rw [h.counters_eq, h'.counters_eq, hremoved]

/-! ### Two purges -/

/-- A purge takes out what an earlier one would have taken out. -/
theorem PurgedBy.trans (h : before.PurgedBy (fun _ => now) removed between)
    (h' : between.PurgedBy (fun _ => later) removed' after) (hle : now ≤ later) :
    before.PurgedBy (fun _ => later) (removed + removed') after where
  get?_eq key := by
    have hearlier : ∀ entry : Entry ν, ¬entry.ExpiredAt later → ¬entry.ExpiredAt now := by
      intro entry hlive
      rw [Entry.not_expiredAt] at hlive ⊢
      exact Int.le_trans hle hlive
    refine Option.ext fun entry => ?_
    simp only [h'.get?_eq, h.get?_eq, Option.filter_eq_some_iff, decide_eq_true_eq, and_assoc]
    exact and_congr_right fun _ => ⟨And.right, fun hlive => ⟨hearlier entry hlive, hlive⟩⟩
  size_eq := by rw [Nat.add_assoc, h'.size_eq, h.size_eq]
  counters_eq := by
    rw [h'.counters_eq, h.counters_eq]
    simp only [Nat.add_assoc]

theorem PurgedBy.rest (h : before.PurgedBy reading removed after) :
    after.PurgedBy reading 0 after where
  get?_eq key := by
    refine Option.ext fun entry => ?_
    simp only [h.get?_eq, Option.filter_eq_some_iff, decide_eq_true_eq, and_assoc, and_self]
  size_eq := Nat.zero_add _
  counters_eq := rfl

/-- **Purges under a moving clock.** In whatever order a purge comes to the entries, and whatever
the clock shows it for each, it takes out the entries that are past their expiry at their own
reading, counts them as swept and changes nothing else. So readings within bounds bound what it
takes out. A second purge at the same time, in an order of its own, takes out nothing, and one at a
later time leaves what it would have left alone. -/
theorem purge_under_moving_clock (store : Store κ ν) (order : Table κ (Entry ν))
    (horder : order.items.Perm store.table.items) (clock : Clock) (reading : κ → Instant)
    (hreadings : (clock.readings order.size).1 = order.keys.map reading) :
    let purged := (store.inOrder order).purge clock
    store.PurgedBy reading purged.1 purged.2.1 ∧
    (purged.1 = store.table.items.countP fun item => item.2.ExpiredAt (reading item.1)) ∧
    (∀ first last, (∀ key ∈ order.keys, first ≤ reading key ∧ reading key ≤ last) →
      ∀ key entry, store.table.get? key = some entry →
        (entry.expiresAt < first → purged.2.1.table.get? key = none) ∧
        (last ≤ entry.expiresAt → purged.2.1.table.get? key = some entry)) ∧
    ∀ now later again, now ≤ later →
      let once := (store.inOrder order).purge { steady := now }
      again.items.Perm once.2.1.table.items →
      let second := (once.2.1.inOrder again).purge { steady := now }
      let both := (once.2.1.inOrder again).purge { steady := later }
      let late := (store.inOrder order).purge { steady := later }
      (second.1 = 0 ∧ second.2.1.Alike once.2.1) ∧
      (once.1 + both.1 = late.1 ∧ both.2.1.Alike late.2.1) := by
  intro purged
  have hpurged : store.PurgedBy reading purged.1 purged.2.1 :=
    (purgedBy_purge hreadings).of_perm horder
  refine ⟨hpurged, hpurged.removed_eq, ?_, ?_⟩
  · intro first last hbounds key entry hfound
    have hmem : key ∈ order.keys := by
      rw [Table.mem_keys_iff]
      exact ⟨entry, (Table.get?_eq_of_perm horder key).trans hfound⟩
    obtain ⟨hfirst, hlast⟩ := hbounds key hmem
    refine ⟨fun hpast => hpurged.get?_eq_none hfound ?_,
      fun hlive => hpurged.get?_eq_some hfound ?_⟩
    · exact Int.lt_of_lt_of_le hpast hfirst
    · rw [Entry.not_expiredAt]
      exact Int.le_trans hlast hlive
  · intro now later again hle once hagain second both late
    have honce := purgedBy_purge_steady (store.inOrder order) now
    have hlate := purgedBy_purge_steady (store.inOrder order) later
    have hsecond := (purgedBy_purge_steady (once.2.1.inOrder again) now).of_perm hagain
    have hboth := (purgedBy_purge_steady (once.2.1.inOrder again) later).of_perm hagain
    exact ⟨hsecond.unique honce.rest, (honce.trans hboth hle).unique hlate⟩

/-- Each reading is earlier than the one before it, and the entries do not come in the order of the
store. -/
theorem purge_under_moving_clock_of_three_entries :
    let entry : Int → Entry String := fun nanos => { payload := "v", expiresAt := .ofNanos nanos }
    let store : Store String String :=
      { table := { items := [("a", entry 10), ("b", entry 20), ("c", entry 30)] } }
    let order : Table String (Entry String) :=
      { items := [("c", entry 30), ("b", entry 20), ("a", entry 10)] }
    let clock : Clock :=
      { queued := [.ofNanos 31, .ofNanos 20, .ofNanos 11], steady := .ofNanos 0 }
    let reading : String → Instant := fun key =>
      .ofNanos (if key = "a" then 11 else if key = "b" then 20 else 31)
    let purged := (store.inOrder order).purge clock
    let once := (store.inOrder order).purge { steady := .ofNanos 15 }
    let again : Table String (Entry String) := { items := [("b", entry 20), ("c", entry 30)] }
    order.items.Perm store.table.items ∧
    (clock.readings order.size).1 = order.keys.map reading ∧
    again.items.Perm once.2.1.table.items ∧
    purged.1 = 2 ∧ purged.2.1.table.get? "a" = none ∧
    purged.2.1.table.get? "b" = some (entry 20) ∧
    once.1 + ((once.2.1.inOrder again).purge { steady := .ofNanos 25 }).1 = 2 := by
  intro entry store order clock reading purged once again
  have horder : order.items.Perm store.table.items := by decide
  have hreadings : (clock.readings order.size).1 = order.keys.map reading := by decide
  have hagain : again.items.Perm once.2.1.table.items := by decide
  obtain ⟨hpurged, hremoved, hbounds, htwice⟩ :=
    purge_under_moving_clock store order horder clock reading hreadings
  obtain ⟨hpast, -⟩ := hbounds (.ofNanos 11) (.ofNanos 31) (by decide) "a" (entry 10) (by decide)
  have hlive : ¬(entry 20).ExpiredAt (reading "b") := by decide
  obtain ⟨-, hboth, -⟩ := htwice (.ofNanos 15) (.ofNanos 25) again (by decide) hagain
  exact ⟨horder, hreadings, hagain, hremoved.trans (by decide), hpast (by decide),
    hpurged.get?_eq_some (by decide) hlive, hboth.trans (by decide)⟩

end ExpiringCache.Store
