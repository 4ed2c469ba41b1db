import ExpiringCache.Table
import Mathlib.Data.Finset.Card
/-!
# Tables as maps

Inserting a list of items one after the other, seen through `Table.get?`: the last item of a key
counts, whatever stood under the key before.
-/

namespace ExpiringCache.Table

variable {κ ν : Type}

/-- The keys of a table, each once. -/
def keys (table : Table κ ν) : List κ := table.items.map Prod.fst

variable [DecidableEq κ]

/-- The value of the last item with a key. -/
def lastValue? (items : List (κ × ν)) (key : κ) : Option ν := items.reverse.lookup key

def insertAll (table : Table κ ν) (items : List (κ × ν)) : Table κ ν :=
  items.foldl (fun table item => table.insert item.1 item.2) table

theorem lastValue?_cons_self (key : κ) (value : ν) (rest : List (κ × ν)) :
    lastValue? ((key, value) :: rest) key = (lastValue? rest key).or (some value) := by
  simp [lastValue?, List.lookup_append]

theorem lastValue?_cons_of_ne {key key' : κ} (h : key ≠ key') (value : ν)
    (rest : List (κ × ν)) : lastValue? ((key', value) :: rest) key = lastValue? rest key := by
  have hbeq : (key == key') = false := beq_false_of_ne h
  simp [lastValue?, List.lookup_append, List.lookup_cons, hbeq]

theorem lastValue?_eq_none_iff {items : List (κ × ν)} {key : κ} :
    lastValue? items key = none ↔ key ∉ items.map Prod.fst := by
  simp only [lastValue?, List.lookup_eq_none_iff, List.mem_reverse, bne_iff_ne, List.mem_map,
    not_exists, not_and]
  exact forall₂_congr fun item _ => ne_comm

/-- The last value of a key is the value of an item after which no item has the key. -/
theorem lastValue?_eq_some_iff {items : List (κ × ν)} {key : κ} {value : ν} :
    lastValue? items key = some value ↔
      ∃ before after, items = before ++ (key, value) :: after ∧ key ∉ after.map Prod.fst := by
  rw [lastValue?, List.lookup_eq_some_iff]
  constructor
  · rintro ⟨after, before, hitems, hafter⟩
    refine ⟨before.reverse, after.reverse, ?_, ?_⟩
    · rw [← List.reverse_reverse items, hitems]
      simp
    · rw [← lastValue?_eq_none_iff, lastValue?, List.reverse_reverse, List.lookup_eq_none_iff]
      exact hafter
  · rintro ⟨before, after, rfl, hafter⟩
    refine ⟨after.reverse, before.reverse, by simp, ?_⟩
    rw [← lastValue?_eq_none_iff, lastValue?, List.lookup_eq_none_iff] at hafter
    exact hafter

theorem lastValue?_eq_some_iff_mem {items : List (κ × ν)} (hnodup : (items.map Prod.fst).Nodup)
    {key : κ} {value : ν} : lastValue? items key = some value ↔ (key, value) ∈ items := by
  constructor
  · intro h
    obtain ⟨before, after, rfl, -⟩ := lastValue?_eq_some_iff.1 h
    simp
  · intro h
    obtain ⟨before, after, rfl⟩ := List.append_of_mem h
    refine lastValue?_eq_some_iff.2 ⟨before, after, rfl, ?_⟩
    rw [List.map_append, List.map_cons, List.nodup_append] at hnodup
    exact (List.nodup_cons.1 hnodup.2.1).1

theorem get?_insertAll (table : Table κ ν) (items : List (κ × ν)) (key : κ) :
    (table.insertAll items).get? key = (lastValue? items key).or (table.get? key) := by
  induction items generalizing table with
  | nil => rfl
  | cons item rest ih =>
      obtain ⟨key', value⟩ := item
      rw [insertAll, List.foldl_cons, ← insertAll, ih]
      by_cases h : key = key'
      · subst h
        rw [get?_insert_self, lastValue?_cons_self, Option.or_assoc, Option.some_or]
      · rw [get?_insert_of_ne _ h, lastValue?_cons_of_ne h]

theorem mem_keys_iff {table : Table κ ν} {key : κ} :
    key ∈ table.keys ↔ ∃ value, table.get? key = some value := by
  simp only [keys, List.mem_map, Prod.exists, exists_and_right, exists_eq_right,
    get?_eq_some_iff]

theorem mem_keys_insertAll_empty {items : List (κ × ν)} {key : κ} :
    key ∈ ((∅ : Table κ ν).insertAll items).keys ↔ key ∈ items.map Prod.fst := by
  rw [mem_keys_iff, ← Option.isSome_iff_exists, get?_insertAll, get?_empty, Option.or_none,
    Option.isSome_iff_ne_none, ne_eq, lastValue?_eq_none_iff, not_not]

theorem size_insertAll_empty (items : List (κ × ν)) :
    ((∅ : Table κ ν).insertAll items).size = (items.map Prod.fst).dedup.length := by
  have hkeys : ((∅ : Table κ ν).insertAll items).keys.toFinset =
      (items.map Prod.fst).toFinset := by
    ext key
    rw [List.mem_toFinset, List.mem_toFinset, mem_keys_insertAll_empty]
  have hnodup : ((∅ : Table κ ν).insertAll items).keys.Nodup := nodup_keys _
  calc ((∅ : Table κ ν).insertAll items).size
      = ((∅ : Table κ ν).insertAll items).keys.length := (List.length_map _).symm
    _ = ((∅ : Table κ ν).insertAll items).keys.toFinset.card :=
        (List.toFinset_card_of_nodup hnodup).symm
    _ = (items.map Prod.fst).dedup.length := by rw [hkeys, List.card_toFinset]

theorem get?_filter (table : Table κ ν) (keep : κ × ν → Bool) (key : κ) :
    (table.filter keep).get? key = (table.get? key).filter fun value => keep (key, value) := by
  refine Option.ext fun value => ?_
  rw [get?_eq_some_iff, Option.filter_eq_some_iff, get?_eq_some_iff]
  exact List.mem_filter

/-- The order of the items makes no difference to what stands under a key. -/
theorem get?_eq_of_perm {first second : Table κ ν} (h : first.items.Perm second.items)
    (key : κ) : first.get? key = second.get? key := by
  refine Option.ext fun value => ?_
  rw [get?_eq_some_iff, get?_eq_some_iff, h.mem_iff]

/-! ### Sizes -/

theorem countP_key (table : Table κ ν) (key : κ) :
    (table.items.countP fun item => item.1 = key) = (table.get? key).isSome.toNat := by
  have hkeys : (table.items.countP fun item => item.1 = key) = table.keys.count key := by
    rw [keys, List.count, List.countP_map]
    exact List.countP_congr fun item _ => by simp
  have hnodup : table.keys.Nodup := table.nodup_keys
  rw [hkeys]
  cases h : table.get? key with
  | none =>
      refine List.count_eq_zero.2 fun hmem => ?_
      obtain ⟨value, hvalue⟩ := mem_keys_iff.1 hmem
      exact Option.some_ne_none value (hvalue.symm.trans h)
  | some value => exact List.count_eq_one_of_mem hnodup (mem_keys_iff.2 ⟨value, h⟩)

theorem size_erase (table : Table κ ν) (key : κ) :
    (table.erase key).size + (table.get? key).isSome.toNat = table.size := by
  have hkept : (table.erase key).size = table.items.countP fun item => item.1 ≠ key :=
    List.countP_eq_length_filter.symm
  have hsplit : table.items.length =
      (table.items.countP fun item => item.1 = key) +
        table.items.countP fun item => item.1 ≠ key := by
    simpa using List.length_eq_countP_add_countP fun item : κ × ν => item.1 = key
  rw [hkept, ← countP_key, Nat.add_comm]
  exact hsplit.symm

theorem size_insert (table : Table κ ν) (key : κ) (value : ν) :
    (table.insert key value).size = table.size + (table.get? key).isNone.toNat := by
  have hsize : (table.insert key value).size = (table.erase key).size + 1 := List.length_cons
  have herase := table.size_erase key
  rw [hsize, ← herase]
  cases table.get? key <;> rfl

/-- Erasing a key takes its item out and no other. -/
theorem perm_erase (table : Table κ ν) (key : κ) :
    table.items.Perm
      ((table.erase key).items ++ (table.get? key).toList.map fun value => (key, value)) := by
  have hitems : table.items.Nodup := List.Nodup.of_map Prod.fst table.nodup_keys
  have htaken : (table.items.filter fun item => !decide (item.1 ≠ key)).Perm
      ((table.get? key).toList.map fun value => (key, value)) := by
    refine (List.perm_ext_iff_of_nodup (hitems.filter _) ?_).2 ?_
    · cases table.get? key with
      | none => exact List.nodup_nil
      | some value => exact List.nodup_singleton _
    · rintro ⟨found, value⟩
      simp only [List.mem_filter, decide_not, Bool.not_not, decide_eq_true_eq, List.mem_map,
        Option.mem_toList, get?_eq_some_iff, Prod.mk.injEq]
      constructor
      · rintro ⟨hmem, rfl⟩
        exact ⟨value, hmem, rfl, rfl⟩
      · rintro ⟨_, hmem, rfl, rfl⟩
        exact ⟨hmem, rfl⟩
  exact (List.filter_append_perm _ table.items).symm.trans (htaken.append_left _)

theorem size_eq_of_get?_eq {table table' : Table κ ν}
    (h : ∀ key, table.get? key = table'.get? key) : table.size = table'.size := by
  have hperm : table.keys.Perm table'.keys := by
    have hmem : ∀ key, key ∈ table.keys ↔ key ∈ table'.keys := fun key => by
      rw [mem_keys_iff, mem_keys_iff, h]
    exact (List.perm_ext_iff_of_nodup table.nodup_keys table'.nodup_keys).2 hmem
  calc table.size = table.keys.length := (List.length_map _).symm
    _ = table'.keys.length := hperm.length_eq
    _ = table'.size := List.length_map _

/-- Every new key adds one, if the keys of the items differ. -/
theorem size_insertAll {items : List (κ × ν)} (hnodup : (items.map Prod.fst).Nodup)
    (table : Table κ ν) :
    (table.insertAll items).size =
      table.size + (items.map Prod.fst).countP fun key => (table.get? key).isNone := by
  induction items generalizing table with
  | nil => rfl
  | cons item rest ih =>
      obtain ⟨hfresh, hrest⟩ := List.nodup_cons.1 hnodup
      have hothers : ((rest.map Prod.fst).countP fun key =>
            ((table.insert item.1 item.2).get? key).isNone) =
          (rest.map Prod.fst).countP fun key => (table.get? key).isNone := by
        refine List.countP_congr fun key hkey => ?_
        have hne : key ≠ item.1 := fun heq => hfresh (heq ▸ hkey)
        rw [get?_insert_of_ne _ hne]
      have hfirst : (if (table.get? item.1).isNone then 1 else 0) =
          (table.get? item.1).isNone.toNat := by
        cases (table.get? item.1).isNone <;> rfl
      rw [insertAll, List.foldl_cons, ← insertAll, ih hrest, hothers, size_insert, List.map_cons,
        List.countP_cons, hfirst]
      omega

end ExpiringCache.Table
