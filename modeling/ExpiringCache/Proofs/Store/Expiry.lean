import ExpiringCache.Cache
import ExpiringCache.Proofs.Store.History
/-!
# When the entries of a store expire

Under a clock without queued readings every operation sees the same time. Whatever callers do, an
entry that was not there before expires no earlier than that, and a sweep leaves no entry that
expires earlier.
-/

namespace ExpiringCache

def Store.ExpiresFrom {κ ν : Type} [DecidableEq κ] (store : Store κ ν) (time : Int) : Prop :=
  ∀ key entry, store.table.get? key = some entry → time ≤ entry.expiresAt.toNanos

theorem Store.ExpiresFrom.mono {κ ν : Type} [DecidableEq κ] {store : Store κ ν}
    {time earlier : Int} (h : store.ExpiresFrom time) (hle : earlier ≤ time) :
    store.ExpiresFrom earlier :=
  fun key entry hfound => hle.trans (h key entry hfound)

theorem Store.expiresFrom_empty {κ ν : Type} [DecidableEq κ] (time : Int) :
    ({} : Store κ ν).ExpiresFrom time :=
  fun _ _ hfound => (Option.some_ne_none _ hfound.symm).elim

theorem Store.purge_clock {κ ν : Type} {clock : Clock} (hqueued : clock.queued = [])
    (store : Store κ ν) : (store.purge clock).2.2 = clock := by
  rw [Store.purge_eq]
  exact Clock.skip_of_queued_nil hqueued _

theorem Store.lookup_clock {κ ν : Type} [DecidableEq κ] {clock : Clock}
    (hqueued : clock.queued = []) (store : Store κ ν) (key : κ) :
    (store.lookup key clock).2.2 = clock := by
  cases hfound : store.table.get? key with
  | none => rw [Store.lookup_of_none hfound]
  | some entry =>
      by_cases hexpired : entry.ExpiredAt (clock.reading 0)
      · rw [Store.lookup_of_expired hfound hexpired]
        exact Clock.skip_of_queued_nil hqueued _
      · rw [Store.lookup_of_live hfound hexpired]
        exact Clock.skip_of_queued_nil hqueued _

theorem Store.serve_clock {κ ν : Type} [DecidableEq κ] {clock : Clock}
    (hqueued : clock.queued = []) (store : Store κ ν) (request : Request κ ν) :
    (store.serve clock request).2.2 = clock := by
  cases request with
  | put key payload ttl =>
      change (store.put key payload ttl clock).2 = clock
      rw [Store.put_eq]
      exact Clock.skip_of_queued_nil hqueued _
  | get key => exact Store.lookup_clock hqueued store key
  | getWithExpiry key => exact Store.lookup_clock hqueued store key
  | purge => exact Store.purge_clock hqueued store
  | delete key => rfl
  | size => rfl
  | hitRate => rfl

theorem Store.serveAll_clock {κ ν : Type} [DecidableEq κ] {clock : Clock}
    (hqueued : clock.queued = []) (store : Store κ ν) (requests : List (Request κ ν)) :
    (store.serveAll clock requests).2.2 = clock := by
  induction requests generalizing store with
  | nil => rfl
  | cons request rest ih =>
      simp only [Store.serveAll, Store.serve_clock hqueued]
      exact ih _

theorem Cache.serveEach_clock {ν : Type} {clock : Clock} (hqueued : clock.queued = [])
    (store : Store String ν) (callers : List (List (Request String ν))) :
    (Cache.serveEach store clock callers).2.2 = clock := by
  induction callers generalizing store with
  | nil => rfl
  | cons requests rest ih =>
      simp only [Cache.serveEach, Store.serveAll_clock hqueued]
      exact ih _

section Actions

variable {ν : Type} [SnapshotText ν] {clock : Clock}

theorem Store.reload_clock (hqueued : clock.queued = []) (store : Store String ν) (path : String)
    (policy : SnapshotPolicy) (content : Except IoError (List UInt8)) :
    (store.reload path policy content clock).clock = clock := by
  by_cases hread : ∃ bytes records, content = .ok bytes ∧ Snapshot.decode bytes = .ok records
  · obtain ⟨bytes, records, rfl, hdecode⟩ := hread
    rw [Store.reload_of_decode_eq_ok store path policy hdecode, Store.load_eq]
    exact Clock.skip_of_queued_nil hqueued _
  · have hflawed : ∀ bytes records, content = .ok bytes → Snapshot.decode bytes ≠ .ok records := by
      intro bytes records hcontent hdecode
      exact hread ⟨bytes, records, hcontent, hdecode⟩
    obtain ⟨event, heq⟩ := Store.reload_of_flawed store path policy hflawed clock
    rw [heq]

/-- No action takes a reading away from a clock that has none queued. -/
theorem Store.act_clock (hqueued : clock.queued = []) (store : Store String ν)
    (action : Action ν) : (store.act clock action).2.2 = clock := by
  cases action with
  | reload path policy content => exact Store.reload_clock hqueued store path policy content
  | serve request => exact Store.serve_clock hqueued store request

theorem Moment.le_expiresAt_of_writes {moment : Moment ν} {key : String} {entry : Entry ν}
    (hqueued : moment.clock.queued = []) (hlast : moment.clock.steady ≤ Instant.last)
    (h : moment.Writes key entry) :
    moment.clock.steady.toNanos ≤ entry.expiresAt.toNanos := by
  obtain ⟨store, clock, action⟩ := moment
  cases action with
  | reload path policy content =>
      obtain ⟨bytes, records, n, text, -, -, -, rfl⟩ := h
      exact Clock.steady_le_expiry hqueued hlast _ _
  | serve request =>
      cases request with
      | put key' payload ttl =>
          obtain ⟨-, rfl⟩ := h
          exact Clock.steady_le_expiry hqueued hlast _ _
      | _ => exact h.elim

theorem Cache.run_clock (hqueued : clock.queued = []) (cache : Cache ν) (now turn : Nat)
    (disk : Disk) (command : Command ν) :
    (cache.run now turn clock disk command).clock = clock := by
  cases command with
  | serve request => exact Store.act_clock hqueued cache.store (.serve request)
  | serveEach callers => exact Cache.serveEach_clock hqueued cache.store callers
  | reload path policy => exact Store.reload_clock hqueued cache.store path policy (disk.read path)
  | save path policy =>
      unfold Cache.run
      dsimp only
      split <;> rfl
  | startJanitor interval onRuntime => cases onRuntime <;> rfl
  | _ => rfl

/-! ### Callers -/

section Callers

variable {since : Int} (hqueued : clock.queued = []) (hlast : clock.steady ≤ Instant.last)
  (hsince : since ≤ clock.steady.toNanos)

include hqueued hlast hsince

theorem Store.ExpiresFrom.act {store : Store String ν} (h : store.ExpiresFrom since)
    (action : Action ν) : (store.act clock action).2.1.ExpiresFrom since := by
  intro key entry hfound
  let moment : Moment ν := { store, clock, action }
  have hafter : moment.after.table.get? key = some entry := hfound
  rcases (Moment.get?_after moment key entry).1 hafter with hwrites | ⟨hbefore, -⟩
  · exact hsince.trans (Moment.le_expiresAt_of_writes hqueued hlast hwrites)
  · exact h key entry hbefore

theorem Store.ExpiresFrom.serveAll {store : Store String ν} (h : store.ExpiresFrom since)
    (requests : List (Request String ν)) :
    (store.serveAll clock requests).2.1.ExpiresFrom since := by
  induction requests generalizing store with
  | nil => exact h
  | cons request rest ih =>
      simp only [Store.serveAll, Store.serve_clock hqueued]
      exact ih (h.act hqueued hlast hsince (.serve request))

theorem Store.ExpiresFrom.serveEach {store : Store String ν} (h : store.ExpiresFrom since)
    (callers : List (List (Request String ν))) :
    (Cache.serveEach store clock callers).2.1.ExpiresFrom since := by
  induction callers generalizing store with
  | nil => exact h
  | cons requests rest ih =>
      simp only [Cache.serveEach, Store.serveAll_clock hqueued]
      exact ih (h.serveAll hqueued hlast hsince requests)

end Callers

def Command.KeepsJanitor : Command ν → Prop
  | .serve _ | .serveEach _ | .save _ _ | .reload _ _ | .isRunning | .janitorInterval => True
  | .close | .discard | .startJanitor _ _ | .releaseJanitor => False

theorem Cache.run_of_keepsJanitor (hqueued : clock.queued = [])
    (hlast : clock.steady ≤ Instant.last) {since : Int} (hsince : since ≤ clock.steady.toNanos)
    {cache : Cache ν} (h : cache.store.ExpiresFrom since) {command : Command ν}
    (hkeeps : command.KeepsJanitor) (now turn : Nat) (disk : Disk) :
    ∃ store, (cache.run now turn clock disk command).cache? = some { cache with store } ∧
      store.ExpiresFrom since := by
  cases command with
  | serve request => exact ⟨_, rfl, h.act hqueued hlast hsince (.serve request)⟩
  | serveEach callers => exact ⟨_, rfl, h.serveEach hqueued hlast hsince callers⟩
  | reload path policy =>
      exact ⟨_, rfl, h.act hqueued hlast hsince (.reload path policy (disk.read path))⟩
  | save path policy =>
      refine ⟨cache.store, ?_, h⟩
      unfold Cache.run
      dsimp only
      split <;> rfl
  | isRunning => exact ⟨_, rfl, h⟩
  | janitorInterval => exact ⟨_, rfl, h⟩
  | close => exact hkeeps.elim
  | discard => exact hkeeps.elim
  | startJanitor interval onRuntime => exact hkeeps.elim
  | releaseJanitor => exact hkeeps.elim

end Actions

/-! ### Sweeps -/

section Sweeps

variable {ν : Type} {clock : Clock}

theorem Store.expiresFrom_purge (hqueued : clock.queued = []) (store : Store String ν) :
    (store.purge clock).2.1.ExpiresFrom clock.steady.toNanos := by
  intro key entry hfound
  obtain ⟨n, -, hlive⟩ := Store.mem_items_purge.1 (Table.get?_eq_some_iff.1 hfound)
  rw [Clock.reading_of_queued_nil hqueued] at hlive
  exact Entry.not_expiredAt.1 hlive

theorem Store.ExpiresFrom.purge {store : Store String ν} {since : Int}
    (h : store.ExpiresFrom since) (clock : Clock) :
    (store.purge clock).2.1.ExpiresFrom since :=
  fun key entry hfound => h key entry (Store.get?_purge.1 hfound).1

theorem Cache.sweep_clock (hqueued : clock.queued = []) (store : Store String ν) (sweeps : Nat) :
    (Cache.sweep store clock sweeps).2.1 = clock := by
  induction sweeps generalizing store with
  | zero => rfl
  | succ sweeps ih =>
      simp only [Cache.sweep, Store.purge_clock hqueued]
      exact ih _

theorem Store.ExpiresFrom.sweep (hqueued : clock.queued = []) {store : Store String ν}
    {since : Int} (h : store.ExpiresFrom since) (sweeps : Nat) :
    (Cache.sweep store clock sweeps).1.ExpiresFrom since := by
  induction sweeps generalizing store with
  | zero => exact h
  | succ sweeps ih =>
      simp only [Cache.sweep, Store.purge_clock hqueued]
      exact ih (h.purge clock)

theorem Cache.expiresFrom_sweep (hqueued : clock.queued = []) (store : Store String ν)
    {sweeps : Nat} (hpos : 0 < sweeps) :
    (Cache.sweep store clock sweeps).1.ExpiresFrom clock.steady.toNanos := by
  obtain ⟨more, rfl⟩ := Nat.exists_eq_succ_of_ne_zero hpos.ne'
  simp only [Cache.sweep, Store.purge_clock hqueued]
  exact (Store.expiresFrom_purge hqueued store).sweep hqueued more

end Sweeps

end ExpiringCache
