import ExpiringCache.Cache
import ExpiringCache.Proofs.Store.Operations
/-!
# The history of a store

What a store holds under a key is what was last written there, unless it was removed since. A write
is a put or a reload that decoded the key. A removal is a delete of the key, a purge whose own
reading for the entry is past its expiry, or a lookup of the key both of whose readings are. The
readings are arbitrary: a clock may go back at any reading.

The law is carried by one step, `Moment.get?_after`, and lifted to runs from the last step on.
-/

namespace ExpiringCache

/-- What a caller does to a store, given what is read at the path of a snapshot. -/
inductive Action (ν : Type) where
  | serve (request : Request String ν)
  | reload (path : String) (policy : SnapshotPolicy) (content : Except IoError (List UInt8))

/-- An action with the store and the clock that it meets. -/
structure Moment (ν : Type) where
  store : Store String ν
  clock : Clock
  action : Action ν

variable {ν : Type} [SnapshotText ν]

namespace Store

def act (store : Store String ν) (clock : Clock) : Action ν → Reply ν × Store String ν × Clock
  | .serve request =>
    let (response, store, clock) := store.serve clock request
    (.response response, store, clock)
  | .reload path policy content =>
    let reloaded := store.reload path policy content clock
    (.entries reloaded.entries, reloaded.store, reloaded.clock)

def run (store : Store String ν) (clock : Clock) : List (Action ν) → Store String ν × Clock
  | [] => (store, clock)
  | action :: rest => (store.act clock action).2.1.run (store.act clock action).2.2 rest

def history (store : Store String ν) (clock : Clock) : List (Action ν) → List (Moment ν)
  | [] => []
  | action :: rest =>
    { store, clock, action } ::
      (store.act clock action).2.1.history (store.act clock action).2.2 rest

theorem run_append (store : Store String ν) (clock : Clock) (first second : List (Action ν)) :
    store.run clock (first ++ second) =
      (store.run clock first).1.run (store.run clock first).2 second := by
  induction first generalizing store clock with
  | nil => rfl
  | cons action rest ih => exact ih _ _

theorem history_append (store : Store String ν) (clock : Clock) (first second : List (Action ν)) :
    store.history clock (first ++ second) =
      store.history clock first ++
        (store.run clock first).1.history (store.run clock first).2 second := by
  induction first generalizing store clock with
  | nil => rfl
  | cons action rest ih => exact congrArg (List.cons _) (ih _ _)

end Store

/-! ### Responses -/

/-- What a reply tells callers. -/
def Reply.toResponses {ν : Type} : Reply ν → List (Response ν)
  | .response told => [told]
  | .responses callers => callers.flatten
  | _ => []

def Moment.responses (moment : Moment ν) : List (Response ν) :=
  (moment.store.act moment.clock moment.action).1.toResponses

namespace Store

/-- The responses to the actions of a run. -/
def responses (store : Store String ν) (clock : Clock) (actions : List (Action ν)) :
    List (Response ν) :=
  (store.history clock actions).flatMap Moment.responses

theorem responses_cons (store : Store String ν) (clock : Clock) (action : Action ν)
    (rest : List (Action ν)) :
    store.responses clock (action :: rest) =
      (store.act clock action).1.toResponses ++
        (store.act clock action).2.1.responses (store.act clock action).2.2 rest :=
  List.flatMap_cons

theorem responses_append (store : Store String ν) (clock : Clock)
    (first second : List (Action ν)) :
    store.responses clock (first ++ second) =
      store.responses clock first ++
        (store.run clock first).1.responses (store.run clock first).2 second := by
  rw [responses, history_append, List.flatMap_append]
  rfl

theorem serveAll_eq (store : Store String ν) (clock : Clock) (requests : List (Request String ν)) :
    store.serveAll clock requests =
      (store.responses clock (requests.map .serve), store.run clock (requests.map .serve)) := by
  induction requests generalizing store clock with
  | nil => rfl
  | cons request rest ih =>
      simp only [serveAll, ih]
      rfl

end Store

/-! ### One step -/

namespace Moment

def after (moment : Moment ν) : Store String ν := (moment.store.act moment.clock moment.action).2.1

/-- The action stores the entry under the key. Of a snapshot the value at place `n` takes the
reading after `n` others. -/
def Writes (moment : Moment ν) (key : String) (entry : Entry ν) : Prop :=
  match moment.action with
  | .serve (.put key' payload ttl) =>
    key' = key ∧ entry = { payload, expiresAt := moment.clock.expiry ttl 0 }
  | .serve _ => False
  | .reload _ policy content =>
    ∃ bytes records n text, content = .ok bytes ∧ Snapshot.decode bytes = .ok records ∧
      (Snapshot.latest records).items[n]? = some (key, text) ∧
        entry = { payload := SnapshotText.ofText text
                  expiresAt := moment.clock.expiry policy.reloadTtl n }

/-- The action removes the entry under the key, if it stands there. A purge takes the reading after
`n` others for the entry at place `n`. -/
def Removes (moment : Moment ν) (key : String) (entry : Entry ν) : Prop :=
  match moment.action with
  | .serve (.get key') | .serve (.getWithExpiry key') =>
    key' = key ∧ entry.ExpiredAt (moment.clock.reading 0) ∧
      entry.ExpiredAt (moment.clock.reading 1)
  | .serve (.delete key') => key' = key
  | .serve .purge =>
    ∃ n, moment.store.table.items[n]? = some (key, entry) ∧
      entry.ExpiredAt (moment.clock.reading n)
  | _ => False

def Spares (moment : Moment ν) (key : String) (entry : Entry ν) : Prop :=
  (∀ other, ¬moment.Writes key other) ∧ ¬moment.Removes key entry

theorem writes_or_spared_iff {moment : Moment ν} {key : String}
    (hwrites : ∀ other, ¬moment.Writes key other) (entry : Entry ν) (present : Prop) :
    (moment.Writes key entry ∨ (present ∧ moment.Spares key entry)) ↔
      present ∧ ¬moment.Removes key entry := by
  rw [or_iff_right (hwrites entry), Spares]
  exact and_congr_right fun _ => and_iff_right hwrites

theorem get?_after_put (store : Store String ν) (clock : Clock) (key' : String) (payload : ν)
    (ttl : Duration) (key : String) (entry : Entry ν) :
    let moment : Moment ν := { store, clock, action := .serve (.put key' payload ttl) }
    moment.after.table.get? key = some entry ↔
      moment.Writes key entry ∨ (store.table.get? key = some entry ∧ moment.Spares key entry) := by
  intro moment
  have hafter : moment.after = (store.put key' payload ttl clock).1 := rfl
  rw [hafter, Store.put_eq, Store.insert]
  simp only [Spares, Writes, Removes, moment, not_false_eq_true, and_true]
  by_cases hkey : key' = key
  · subst hkey
    rw [Table.get?_insert_self, Option.some_inj]
    constructor
    · rintro rfl
      exact Or.inl ⟨rfl, rfl⟩
    · rintro (⟨-, rfl⟩ | ⟨-, hspared⟩)
      · rfl
      · exact (hspared _ ⟨rfl, rfl⟩).elim
  · rw [Table.get?_insert_of_ne _ (Ne.symm hkey)]
    simp [hkey]

theorem get?_after_reload (store : Store String ν) (clock : Clock) (path : String)
    (policy : SnapshotPolicy) (content : Except IoError (List UInt8)) (key : String)
    (entry : Entry ν) :
    let moment : Moment ν := { store, clock, action := .reload path policy content }
    moment.after.table.get? key = some entry ↔
      moment.Writes key entry ∨ (store.table.get? key = some entry ∧ moment.Spares key entry) := by
  intro moment
  have hafter : moment.after = (store.reload path policy content clock).store := rfl
  rw [hafter]
  simp only [Spares, Writes, Removes, moment, not_false_eq_true, and_true]
  by_cases hread : ∃ bytes records, content = .ok bytes ∧ Snapshot.decode bytes = .ok records
  · obtain ⟨bytes, records, rfl, hdecode⟩ := hread
    rw [Store.reload_of_decode_eq_ok store path policy hdecode, Store.get?_load]
    have hkeys : key ∈ (Snapshot.latest records).keys ↔
        ∃ (n : Nat) (text : String),
          (Snapshot.latest records).items[n]? = some (key, text) := by
      rw [Table.mem_keys_iff, exists_comm]
      simp only [Table.get?_eq_some_iff, List.mem_iff_getElem?]
    simp only [Except.ok.injEq, exists_and_left, exists_eq_left', hdecode, hkeys, not_exists,
      not_and]
    refine or_congr_right (and_comm.trans (and_congr_right fun _ => ?_))
    constructor
    · exact fun hfresh other n text hitem _ => hfresh n text hitem
    · exact fun hfresh n text hitem => hfresh _ n text hitem rfl
  · have hflawed : ∀ bytes records, content = .ok bytes → Snapshot.decode bytes ≠ .ok records :=
      fun bytes records hcontent hdecode => hread ⟨bytes, records, hcontent, hdecode⟩
    obtain ⟨event, heq⟩ := Store.reload_of_flawed store path policy hflawed clock
    rw [heq]
    constructor
    · refine fun hfound => Or.inr ⟨hfound, ?_⟩
      rintro other ⟨bytes, records, n, text, hcontent, hdecode, -⟩
      exact hflawed bytes records hcontent hdecode
    · rintro (⟨bytes, records, n, text, hcontent, hdecode, -⟩ | ⟨hfound, -⟩)
      · exact (hflawed bytes records hcontent hdecode).elim
      · exact hfound

/-- What stands under a key after an action was written by it, or stood there and was spared. -/
theorem get?_after (moment : Moment ν) (key : String) (entry : Entry ν) :
    moment.after.table.get? key = some entry ↔
      moment.Writes key entry ∨
        (moment.store.table.get? key = some entry ∧ moment.Spares key entry) := by
  obtain ⟨store, clock, action⟩ := moment
  cases action with
  | reload path policy content => exact get?_after_reload store clock path policy content key entry
  | serve request =>
      cases request with
      | put key' payload ttl => exact get?_after_put store clock key' payload ttl key entry
      | get key' =>
          refine Iff.trans ?_ (writes_or_spared_iff (fun _ => id) entry _).symm
          exact Store.get?_lookup
      | getWithExpiry key' =>
          refine Iff.trans ?_ (writes_or_spared_iff (fun _ => id) entry _).symm
          exact Store.get?_lookup
      | delete key' =>
          refine Iff.trans ?_ (writes_or_spared_iff (fun _ => id) entry _).symm
          exact Store.get?_delete
      | purge =>
          refine Iff.trans ?_ (writes_or_spared_iff (fun _ => id) entry _).symm
          exact Store.get?_purge
      | size =>
          refine Iff.trans ?_ (writes_or_spared_iff (fun _ => id) entry _).symm
          exact (and_iff_left id).symm
      | hitRate =>
          refine Iff.trans ?_ (writes_or_spared_iff (fun _ => id) entry _).symm
          exact (and_iff_left id).symm

end Moment

/-! ### Runs -/

/-- The last write of the key stored the entry, and every later moment spared it. -/
def Standing (history : List (Moment ν)) (key : String) (entry : Entry ν) : Prop :=
  ∃ earlier moment later, history = earlier ++ moment :: later ∧ moment.Writes key entry ∧
    ∀ other ∈ later, other.Spares key entry

theorem standing_append_singleton {history : List (Moment ν)} {moment : Moment ν} {key : String}
    {entry : Entry ν} :
    Standing (history ++ [moment]) key entry ↔
      moment.Writes key entry ∨ (Standing history key entry ∧ moment.Spares key entry) := by
  constructor
  · rintro ⟨earlier, write, later, hsplit, hwrite, hspared⟩
    rcases List.eq_nil_or_concat later with rfl | ⟨between, last, rfl⟩
    · obtain ⟨-, hlast⟩ := List.append_inj' hsplit rfl
      obtain rfl : moment = write := List.singleton_inj.1 hlast
      exact Or.inl hwrite
    · rw [List.concat_eq_append, ← List.cons_append, ← List.append_assoc] at hsplit
      obtain ⟨rfl, hlast⟩ := List.append_inj' hsplit rfl
      obtain rfl : moment = last := List.singleton_inj.1 hlast
      refine Or.inr ⟨⟨earlier, write, between, rfl, hwrite, fun other hother => ?_⟩, ?_⟩
      · exact hspared other (by simp [hother])
      · exact hspared moment (by simp)
  · rintro (hwrite | ⟨⟨earlier, write, later, rfl, hwrite, hspared⟩, hlast⟩)
    · exact ⟨history, moment, [], rfl, hwrite, fun _ hnone => (List.not_mem_nil hnone).elim⟩
    · refine ⟨earlier, write, later ++ [moment], by simp, hwrite, fun other hother => ?_⟩
      rcases List.mem_append.1 hother with hother | hother
      · exact hspared other hother
      · exact List.mem_singleton.1 hother ▸ hlast

theorem not_standing_nil {key : String} {entry : Entry ν} :
    ¬Standing ([] : List (Moment ν)) key entry := by
  rintro ⟨earlier, write, later, hsplit, -⟩
  exact List.append_ne_nil_of_right_ne_nil earlier (List.cons_ne_nil write later) hsplit.symm

/-- What stands under a key after a run from the empty store was written last and spared since. -/
theorem get?_run (clock : Clock) (actions : List (Action ν)) (key : String) (entry : Entry ν) :
    (({} : Store String ν).run clock actions).1.table.get? key = some entry ↔
      Standing (({} : Store String ν).history clock actions) key entry := by
  -- The last moment decides: the induction takes the actions from the end.
  induction actions using List.reverseRecOn with
  | nil => exact iff_of_false (Option.some_ne_none entry ∘ Eq.symm) not_standing_nil
  | append_singleton actions action ih =>
      rw [Store.run_append, Store.history_append]
      set store := (({} : Store String ν).run clock actions).1
      set later := (({} : Store String ν).run clock actions).2
      let moment : Moment ν := { store, clock := later, action }
      change moment.after.table.get? key = some entry ↔ Standing (_ ++ [moment]) key entry
      rw [Moment.get?_after, standing_append_singleton, ← ih]

/-- The action is about the key, or about all keys. -/
def Action.Concerns (key : String) : Action ν → Prop
  | .serve (.put key' _ _) | .serve (.get key') | .serve (.getWithExpiry key')
  | .serve (.delete key') => key' = key
  | .serve .purge => True
  | .serve .size | .serve .hitRate => False
  | .reload _ _ content =>
    ∃ bytes records, content = .ok bytes ∧ Snapshot.decode bytes = .ok records ∧
      key ∈ records.map Prod.fst

theorem get?_act_of_not_concerns (store : Store String ν) (clock : Clock) {action : Action ν}
    {key : String} (h : ¬action.Concerns key) :
    (store.act clock action).2.1.table.get? key = store.table.get? key := by
  let moment : Moment ν := { store, clock, action }
  have hwrites : ∀ entry, ¬moment.Writes key entry := by
    intro entry hwrite
    cases action with
    | reload path policy content =>
        obtain ⟨bytes, records, n, text, hcontent, hdecode, hitem, -⟩ := hwrite
        refine h ⟨bytes, records, hcontent, hdecode, ?_⟩
        refine Table.mem_keys_insertAll_empty.1 (Table.mem_keys_iff.2 ⟨text, ?_⟩)
        exact Table.get?_eq_some_iff.2 (List.mem_of_getElem? hitem)
    | serve request =>
        cases request with
        | put key' payload ttl => exact h hwrite.1
        | _ => exact hwrite
  have hremoves : ∀ entry, ¬moment.Removes key entry := by
    intro entry hremove
    cases action with
    | reload path policy content => exact hremove
    | serve request =>
        cases request with
        | get key' => exact h hremove.1
        | getWithExpiry key' => exact h hremove.1
        | delete key' => exact h hremove
        | purge => exact h trivial
        | _ => exact hremove
  refine Option.ext fun entry => ?_
  change moment.after.table.get? key = some entry ↔ _
  rw [Moment.get?_after, Moment.writes_or_spared_iff hwrites]
  exact and_iff_left (hremoves entry)

/-- **The history law.** After any run under any readings a key holds what was last written there
and spared since, a lookup finds that if its first reading is not past the expiry, and an action
that does not concern the key leaves it alone. -/
theorem run_holds_last_write (clock : Clock) (actions : List (Action ν)) (key : String) :
    let store := (({} : Store String ν).run clock actions).1
    let later := (({} : Store String ν).run clock actions).2
    let history := ({} : Store String ν).history clock actions
    (∀ entry, store.table.get? key = some entry ↔ Standing history key entry) ∧
    (∃ found?, (store.act later (.serve (.get key))).1 = .response (.payload found?) ∧
      ∀ payload, found? = some payload ↔
        ∃ entry, Standing history key entry ∧ later.reading 0 ≤ entry.expiresAt ∧
          entry.payload = payload) ∧
    (∃ found?, (store.act later (.serve (.getWithExpiry key))).1 = .response (.entry found?) ∧
      ∀ entry, found? = some entry ↔
        Standing history key entry ∧ later.reading 0 ≤ entry.expiresAt) ∧
    ∀ action : Action ν, ¬action.Concerns key →
      (store.act later action).2.1.table.get? key = store.table.get? key := by
  intro store later history
  have hlookup : ∀ entry, (store.lookup key later).1 = some entry ↔
      Standing history key entry ∧ later.reading 0 ≤ entry.expiresAt := by
    intro entry
    rw [Store.lookup_fst_eq_some_iff, get?_run]
  refine ⟨get?_run clock actions key,
    ⟨(store.lookup key later).1.map (·.payload), rfl, fun payload => ?_⟩,
    ⟨(store.lookup key later).1, rfl, hlookup⟩,
    fun action h => get?_act_of_not_concerns store later h⟩
  rw [Option.map_eq_some_iff]
  simp only [hlookup, and_assoc]

-- The second reading of the lookup lies before the first: it misses, and the entry stays.
example :
    let clock : Clock := { queued := [.ofNanos 0, .ofNanos 2, .ofNanos 0], steady := .ofNanos 3 }
    let store := (({} : Store String Payload).run clock
      [.serve (.put "k" (.number 7) (.ofSeconds 0)), .serve (.get "k")]).1
    store.counters.misses = 1 ∧ store.size = 1 := by decide

end ExpiringCache
