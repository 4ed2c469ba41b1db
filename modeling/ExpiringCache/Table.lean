/-!
# Tables

A finite map, kept as a list of items with distinct keys. Clients see a table through `Table.get?`;
the order of the list matters only to a traversal.
-/

namespace ExpiringCache

structure Table (κ ν : Type) where
  /-- The keys with their values, newest first. -/
  items : List (κ × ν) := []
  nodup_keys : (items.map Prod.fst).Nodup := by simp

namespace Table

variable {κ ν : Type}

instance : EmptyCollection (Table κ ν) where
  emptyCollection := {}

def size (t : Table κ ν) : Nat := t.items.length

/-- The table of some of the items, in the same order. -/
def ofSublist (t : Table κ ν) (items : List (κ × ν)) (h : items.Sublist t.items) : Table κ ν where
  items := items
  nodup_keys := t.nodup_keys.sublist (h.map Prod.fst)

def filter (t : Table κ ν) (keep : κ × ν → Bool) : Table κ ν :=
  t.ofSublist (t.items.filter keep) List.filter_sublist

variable [DecidableEq κ]

def get? (t : Table κ ν) (k : κ) : Option ν := t.items.lookup k

def erase (t : Table κ ν) (k : κ) : Table κ ν := t.filter fun item => item.1 ≠ k

/-- Gives a key a value, whether or not it had one. -/
def insert (t : Table κ ν) (k : κ) (v : ν) : Table κ ν where
  items := (k, v) :: (t.erase k).items
  nodup_keys := by
    refine List.nodup_cons.2 ⟨?_, (t.erase k).nodup_keys⟩
    simp [erase, filter, ofSublist]

theorem get?_eq_some_iff {t : Table κ ν} {k : κ} {v : ν} :
    t.get? k = some v ↔ (k, v) ∈ t.items := by
  obtain ⟨items, hnodup⟩ := t
  simp only [get?]
  induction items with
  | nil => simp
  | cons item rest ih =>
      obtain ⟨k', v'⟩ := item
      simp only [List.map_cons, List.nodup_cons] at hnodup
      have ih := ih hnodup.2
      by_cases hk : k = k'
      · subst hk
        have hfresh : ∀ w, (k, w) ∉ rest := fun w hw =>
          hnodup.1 (List.mem_map.2 ⟨_, hw, rfl⟩)
        simp [hfresh, eq_comm]
      · have hbeq : (k == k') = false := beq_false_of_ne hk
        simp [List.lookup_cons, hbeq, hk, ih]

theorem get?_eq_none_iff {t : Table κ ν} {k : κ} :
    t.get? k = none ↔ ∀ v, (k, v) ∉ t.items := by
  cases h : t.get? k with
  | none => simp [← get?_eq_some_iff, h]
  | some v =>
      simp only [reduceCtorEq, false_iff, Classical.not_forall, Classical.not_not]
      exact ⟨v, get?_eq_some_iff.1 h⟩

@[simp]
theorem get?_empty (k : κ) : (∅ : Table κ ν).get? k = none := rfl

@[simp]
theorem get?_erase_self (t : Table κ ν) (k : κ) : (t.erase k).get? k = none := by
  simp [get?_eq_none_iff, erase, filter, ofSublist]

theorem get?_erase_of_ne (t : Table κ ν) {k k' : κ} (h : k' ≠ k) :
    (t.erase k).get? k' = t.get? k' := by
  refine Option.ext fun v => ?_
  simp [get?_eq_some_iff, erase, filter, ofSublist, h]

@[simp]
theorem get?_insert_self (t : Table κ ν) (k : κ) (v : ν) : (t.insert k v).get? k = some v := by
  simp [get?_eq_some_iff, insert]

theorem get?_insert_of_ne (t : Table κ ν) {k k' : κ} (h : k' ≠ k) (v : ν) :
    (t.insert k v).get? k' = t.get? k' := by
  refine Option.ext fun w => ?_
  simp [get?_eq_some_iff, insert, erase, filter, ofSublist, h]

end Table

end ExpiringCache
