import ExpiringCache.Proofs.Cache.Stations
import ExpiringCache.Proofs.Snapshot.RoundTrip
import ExpiringCache.Service
/-!
# A run of the service projects its snapshot

A service reloads every record of its snapshot, whatever the prefix, and writes back the keys with
the prefix. What it writes are the last records of its keys: each key once, and all with the prefix.
So a second run finds nothing to drop. A snapshot that cannot be decoded counts as one without
records.

The snapshot has to stand in an ordinary file, or in none yet: what is sent to a device may be saved
without a failure and still be lost. A run here may be as long as one likes: its janitor works at
any times before the signal comes.
-/

namespace ExpiringCache

open Log

/-! ### Snapshots -/

namespace Snapshot

variable {bytes : List UInt8} {records : List Record}

/-- The records that are found in a file; none if it is no snapshot. -/
def found : Except IoError (List UInt8) → List Record
  | .ok bytes => (decode bytes).toOption.getD []
  | .error _ => []

theorem found_cases (content : Except IoError (List UInt8)) :
    (∃ bytes, content = .ok bytes ∧ decode bytes = .ok (found content)) ∨
      ((∀ bytes records, content = .ok bytes → decode bytes ≠ .ok records) ∧
        found content = []) := by
  cases content with
  | error error => exact Or.inr ⟨nofun, rfl⟩
  | ok bytes =>
      cases hdecode : decode bytes with
      | ok records =>
          refine Or.inl ⟨bytes, rfl, ?_⟩
          rw [found, hdecode]
          rfl
      | error error =>
          refine Or.inr ⟨?_, ?_⟩
          · rintro _ records ⟨⟩ hok
            cases hdecode.symm.trans hok
          · rw [found, hdecode]
            rfl

theorem fits_of_found (content : Except IoError (List UInt8)) :
    (found content).length < UInt64.size ∧ ∀ record ∈ found content, Fits record := by
  rcases found_cases content with ⟨bytes, -, hdecode⟩ | ⟨-, hnone⟩
  · exact fits_of_decode hdecode
  · rw [hnone]
    exact ⟨by decide, List.forall_mem_nil _⟩

theorem mem_of_isLast {record : Record} (h : IsLast records record) : record ∈ records := by
  obtain ⟨before, after, rfl, -⟩ := h
  exact List.mem_append_right _ List.mem_cons_self

theorem isLast_iff_mem (hnodup : (records.map Prod.fst).Nodup) {record : Record} :
    IsLast records record ↔ record ∈ records := by
  rw [← mem_items_latest, (latest_perm hnodup).mem_iff]

end Snapshot

/-! ### Reloading into a new store -/

namespace Store

open Snapshot

variable {path : String} {policy : SnapshotPolicy} {content : Except IoError (List UInt8)}
  {clock : Clock}

theorem entries_reload (path : String) (policy : SnapshotPolicy)
    (content : Except IoError (List UInt8)) (clock : Clock) :
    (({} : Store String String).reload path policy content clock).entries =
      ((found content).map Prod.fst).dedup.length := by
  rcases found_cases content with ⟨bytes, rfl, hdecode⟩ | ⟨hflawed, hnone⟩
  · rw [reload_of_decode_eq_ok _ path policy hdecode]
    exact size_latest _
  · obtain ⟨event, heq⟩ := reload_of_flawed ({} : Store String String) path policy hflawed clock
    rw [heq, hnone]
    rfl

/-- A new store holds the last records of the snapshot and nothing else. -/
theorem saves_reload (path : String) (policy : SnapshotPolicy)
    (content : Except IoError (List UInt8)) (clock : Clock) (written : SnapshotPolicy)
    (key text : String) :
    (({} : Store String String).reload path policy content clock).store.Saves written key text ↔
      written.filter.accepts key = true ∧ IsLast (found content) (key, text) := by
  apply and_congr_right
  intro _
  rcases found_cases content with ⟨bytes, rfl, hdecode⟩ | ⟨hflawed, hnone⟩
  · rw [reload_of_decode_eq_ok _ path policy hdecode, ← mem_items_latest]
    constructor
    · rintro ⟨entry, hentry, htext⟩
      rcases get?_load.1 hentry with ⟨n, words, hitem, rfl⟩ | ⟨-, hnone⟩
      · obtain rfl : words = text := Option.some.inj htext
        exact List.mem_of_getElem? hitem
      · exact absurd hnone (Option.some_ne_none entry).symm
    · intro hmem
      obtain ⟨n, hitem⟩ := List.mem_iff_getElem?.1 hmem
      exact ⟨_, get?_load.2 (Or.inl ⟨n, text, hitem, rfl⟩), rfl⟩
  · obtain ⟨event, heq⟩ := reload_of_flawed ({} : Store String String) path policy hflawed clock
    rw [heq, hnone]
    constructor
    · rintro ⟨entry, hentry, -⟩
      exact absurd hentry (Option.some_ne_none entry).symm
    · intro hlast
      exact absurd (mem_of_isLast hlast) List.not_mem_nil

/-! ### Sweeps that remove nothing -/

theorem purge_of_none_removed {ν : Type} {store : Store String ν} {clock : Clock}
    (h : (store.purge clock).1 = 0) : (store.purge clock).2.1 = store := by
  rw [purge_eq] at h ⊢
  obtain ⟨⟨items, hnodup⟩, counters⟩ := store
  set readings := (List.range (Store.size ⟨⟨items, hnodup⟩, counters⟩)).map clock.reading
  have hkept : survivors items readings = items := by
    apply (survivors_sublist items readings).eq_of_length_le
    exact Nat.sub_eq_zero_iff_le.1 h
  simp only [retain, Table.ofSublist, hkept, size, Table.size, Nat.sub_self, Nat.add_zero]

end Store

namespace Cache

variable {ν : Type} {clock : Clock}

theorem store_sweep_of_none_removed (store : Store String ν) (clock : Clock) (sweeps : Nat)
    (h : ∀ removed, Event.swept removed ∈ (Cache.sweep store clock sweeps).2.2 → removed = 0) :
    (Cache.sweep store clock sweeps).1 = store := by
  induction sweeps generalizing store clock with
  | zero => rfl
  | succ sweeps ih =>
      obtain ⟨hfirst, hlater⟩ : (store.purge clock).1 = 0 ∧ ∀ removed, Event.swept removed ∈
          (Cache.sweep (store.purge clock).2.1 (store.purge clock).2.2 sweeps).2.2 →
            removed = 0 :=
        ⟨h _ List.mem_cons_self, fun removed hmem => h removed (List.mem_cons_of_mem _ hmem)⟩
      have hstore := Store.purge_of_none_removed hfirst
      exact (ih _ _ hlater).trans hstore

theorem store_wake_of_none_removed (cache : Cache ν) (station : Station)
    (now turn lingers : Nat) (clock : Clock)
    (h : ∀ removed,
      Event.swept removed ∈ (cache.wake station now turn lingers clock).2.2 → removed = 0) :
    (cache.wake station now turn lingers clock).1.store = cache.store := by
  cases hjanitor : cache.janitorAt? station with
  | none => rw [wake_of_none hjanitor]
  | some janitor =>
      simp only [wake, hjanitor] at h
      rw [wake_of_janitor hjanitor, store_setJanitor]
      apply store_sweep_of_none_removed
      intro removed hmem
      exact h removed (List.mem_append_left _ hmem)

end Cache

/-! ### What the log says was restored -/

/-- How many entries were restored, if the event says so. -/
def Log.Event.restored? : Event → Option Nat
  | .entriesRestored entries => some entries
  | _ => none

theorem Janitor.restored?_farewell (before after : Janitor) :
    (before.farewell after).filterMap Event.restored? = [] := by
  unfold farewell
  split <;> rfl

theorem Janitor.restored?_intervalWarnings (interval : Duration) :
    (intervalWarnings interval).filterMap Event.restored? = [] := by
  unfold intervalWarnings
  split <;> rfl

theorem Store.restored?_reload {ν : Type} [SnapshotText ν] (store : Store String ν) (path : String)
    (policy : SnapshotPolicy) (content : Except IoError (List UInt8)) (clock : Clock) :
    (store.reload path policy content clock).event.restored? = none := by
  cases content with
  | error error => rfl
  | ok bytes =>
      cases hdecode : Snapshot.decode bytes <;> simp only [reload, hdecode, Event.restored?]

namespace Cache

variable {ν : Type}

theorem restored?_sweep (store : Store String ν) (clock : Clock) (sweeps : Nat) :
    (Cache.sweep store clock sweeps).2.2.filterMap Event.restored? = [] := by
  induction sweeps generalizing store clock with
  | zero => rfl
  | succ sweeps ih => exact ih (store.purge clock).2.1 (store.purge clock).2.2

theorem restored?_wake (cache : Cache ν) (station : Station) (now turn lingers : Nat)
    (clock : Clock) :
    (cache.wake station now turn lingers clock).2.2.filterMap Event.restored? = [] := by
  cases hjanitor : cache.janitorAt? station with
  | none => rw [wake_of_none hjanitor]; rfl
  | some janitor =>
      simp only [wake, hjanitor, List.filterMap_append, restored?_sweep,
        Janitor.restored?_farewell, List.append_nil]

theorem restored?_stopEvents (cache : Cache ν) :
    cache.stopEvents.filterMap Event.restored? = [] := by
  unfold stopEvents
  cases cache.janitor? with
  | none => rfl
  | some janitor => exact janitor.restored?_farewell janitor.stop

end Cache

/-! ### Runs -/

namespace Service

open Snapshot

/-- Lets the janitor of a service work at each of the given times. -/
def wakeAll (service : Service) : List (Nat × Clock) → Service × List Event
  | [] => (service, [])
  | (now, clock) :: rest =>
    let (service, _, log) := service.wake now clock
    let (service, later) := service.wakeAll rest
    (service, log ++ later)

/-- Runs a service whose janitor works at the given times before the signal comes. -/
def runThrough (environment : Environment) (wakes : List (Nat × Clock)) (signal : Signal)
    (clock : Clock) (disk : Disk) : Report :=
  match Filter.ofEnvironment environment with
  | .error _ => { exitCode := abortCode, restored := 0, log := [], shown := [], disk }
  | .ok filter =>
    let config := Config.ofEnvironment environment
    let started := start config 0 clock (disk.read config.snapshotPath)
    let (service, woken) := started.service.wakeAll wakes
    let written := disk.write config.snapshotPath service.image
    let log := started.log ++ woken ++ service.shutDownEvents signal (written.map fun _ => ())
    { restored := started.restored
      log
      shown := log.filter fun event => filter.Shows event
      disk := written.toOption.getD disk }

theorem run_eq_runThrough (environment : Environment) (signal : Signal) (clock : Clock)
    (disk : Disk) :
    run environment signal clock disk = runThrough environment [] signal clock disk := by
  unfold run runThrough
  cases Filter.ofEnvironment environment with
  | error fault => rfl
  | ok filter => simp only [wakeAll, List.append_nil]

theorem wakeAll_of_none_removed (service : Service) (wakes : List (Nat × Clock))
    (h : ∀ removed, Event.swept removed ∈ (service.wakeAll wakes).2 → removed = 0) :
    (service.wakeAll wakes).1.config = service.config ∧
      (service.wakeAll wakes).1.cache.store = service.cache.store := by
  induction wakes generalizing service with
  | nil => exact ⟨rfl, rfl⟩
  | cons wake rest ih =>
      obtain ⟨now, clock⟩ := wake
      have hfirst : ∀ removed, Event.swept removed ∈ (service.wake now clock).2.2 →
          removed = 0 := by
        intro removed hmem
        exact h removed (List.mem_append_left _ hmem)
      have hstore := Cache.store_wake_of_none_removed service.cache .resident now 0 0 clock hfirst
      obtain ⟨hconfig, hlater⟩ := ih (service.wake now clock).1 fun removed hmem =>
        h removed (List.mem_append_right _ hmem)
      exact ⟨hconfig, hlater.trans hstore⟩

theorem restored?_start (config : Config) (now : Nat) (clock : Clock)
    (snapshot : Except IoError (List UInt8)) :
    (start config now clock snapshot).log.filterMap Event.restored? =
      [(start config now clock snapshot).restored] := by
  let reloaded := ({} : Store String String).reload config.snapshotPath config.snapshotPolicy
    snapshot clock
  have hcreated : (Cache.createEvents config.cleanupInterval).filterMap Event.restored? = [] := by
    rw [Cache.createEvents, List.filterMap_append, Janitor.restored?_intervalWarnings]
    rfl
  have hreloaded : [reloaded.event, .entriesRestored reloaded.entries].filterMap Event.restored? =
      [reloaded.entries] := by
    rw [List.filterMap_cons_none (Store.restored?_reload _ _ _ _ _)]
    rfl
  simp only [start, List.filterMap_append, hcreated]
  exact hreloaded

theorem restored?_wakeAll (service : Service) (wakes : List (Nat × Clock)) :
    (service.wakeAll wakes).2.filterMap Event.restored? = [] := by
  induction wakes generalizing service with
  | nil => rfl
  | cons wake rest ih =>
      obtain ⟨now, clock⟩ := wake
      have hfirst : (service.wake now clock).2.2.filterMap Event.restored? = [] :=
        Cache.restored?_wake service.cache .resident now 0 0 clock
      have hlater := ih (service.wake now clock).1
      simp only [wakeAll, List.filterMap_append, hfirst, hlater, List.append_nil]

theorem restored?_shutDownEvents (service : Service) (signal : Signal)
    (written : Except IoError Unit) :
    (service.shutDownEvents signal written).filterMap Event.restored? = [] := by
  have hclosing : (if service.cache.running then [Event.cacheClosing] else []).filterMap
      Event.restored? = [] := by
    split <;> rfl
  cases written <;>
    simp only [shutDownEvents, List.filterMap_append, List.filterMap_cons, List.filterMap_nil,
      hclosing, Cache.restored?_stopEvents, Event.restored?, List.append_nil]

/-- The run ended as it should: its snapshot was saved, and no sweep had removed anything. -/
structure Report.Undisturbed (report : Report) : Prop where
  exitCode_eq : report.exitCode = 0
  saved : ∀ error, Event.saveFailed error ∉ report.log
  swept : ∀ removed, Event.swept removed ∈ report.log → removed = 0

variable {environment : Environment} {wakes : List (Nat × Clock)} {signal : Signal}
  {clock : Clock} {disk : Disk}

theorem runThrough_of_filter {filter : Filter}
    (hfilter : Filter.ofEnvironment environment = .ok filter) :
    let config := Config.ofEnvironment environment
    let started := start config 0 clock (disk.read config.snapshotPath)
    let service := (started.service.wakeAll wakes).1
    let written := disk.write config.snapshotPath service.image
    let report := runThrough environment wakes signal clock disk
    report.exitCode = 0 ∧ report.restored = started.restored ∧
      report.log = started.log ++ (started.service.wakeAll wakes).2 ++
        service.shutDownEvents signal (written.map fun _ => ()) ∧
      report.disk = written.toOption.getD disk := by
  unfold runThrough
  rw [hfilter]
  exact ⟨rfl, rfl, rfl, rfl⟩

theorem exists_filter (h : (runThrough environment wakes signal clock disk).exitCode = 0) :
    ∃ filter, Filter.ofEnvironment environment = .ok filter := by
  cases hfilter : Filter.ofEnvironment environment with
  | ok filter => exact ⟨filter, rfl⟩
  | error fault =>
      simp only [runThrough, hfilter] at h
      cases h

/-- An undisturbed run writes what it has reloaded. -/
theorem write_of_undisturbed (h : (runThrough environment wakes signal clock disk).Undisturbed) :
    let config := Config.ofEnvironment environment
    let reloaded := ({} : Store String String).reload config.snapshotPath config.snapshotPolicy
      (disk.read config.snapshotPath) clock
    let report := runThrough environment wakes signal clock disk
    report.restored = reloaded.entries ∧
      report.log.filterMap Event.restored? = [reloaded.entries] ∧
      disk.write config.snapshotPath (reloaded.store.image config.snapshotPolicy) =
        .ok report.disk := by
  intro config reloaded report
  let started := start config 0 clock (disk.read config.snapshotPath)
  let service := (started.service.wakeAll wakes).1
  let written := disk.write config.snapshotPath service.image
  obtain ⟨filter, hfilter⟩ := exists_filter h.exitCode_eq
  obtain ⟨-, hrestored, hlog, hdisk⟩ :
      report.exitCode = 0 ∧ report.restored = reloaded.entries ∧
        report.log = started.log ++ (started.service.wakeAll wakes).2 ++
          service.shutDownEvents signal (written.map fun _ => ()) ∧
        report.disk = written.toOption.getD disk := runThrough_of_filter hfilter
  obtain ⟨hconfig, hstore⟩ := wakeAll_of_none_removed started.service wakes <| by
    intro removed hmem
    apply h.swept
    rw [hlog]
    exact List.mem_append_left _ (List.mem_append_right _ hmem)
  have himage : service.image = reloaded.store.image config.snapshotPolicy := by
    rw [image, hconfig, hstore]
    rfl
  have htold : report.log.filterMap Event.restored? = [reloaded.entries] := by
    rw [hlog, List.filterMap_append, List.filterMap_append, restored?_start, restored?_wakeAll,
      restored?_shutDownEvents]
    rfl
  refine ⟨hrestored, htold, ?_⟩
  rw [hdisk, ← himage]
  change written = _
  cases hwritten : written with
  | ok after => rfl
  | error error =>
      apply absurd _ (h.saved (.io error))
      rw [hlog, hwritten]
      apply List.mem_append_right
      simp [shutDownEvents, Except.map]

/-- The event tells neither of a failure to save nor of a sweep. -/
def Calm : Event → Prop
  | .saveFailed _ | .swept _ => False
  | _ => True

theorem calm_start (config : Config) (now : Nat) (clock : Clock)
    (snapshot : Except IoError (List UInt8)) :
    ∀ event ∈ (start config now clock snapshot).log, Calm event := by
  have hwarnings : ∀ event ∈ Janitor.intervalWarnings config.cleanupInterval, Calm event := by
    intro event hmem
    unfold Janitor.intervalWarnings at hmem
    split at hmem
    · obtain rfl := List.mem_singleton.1 hmem
      trivial
    · exact absurd hmem List.not_mem_nil
  have hreloaded : Calm (({} : Store String String).reload config.snapshotPath
      config.snapshotPolicy snapshot clock).event := by
    cases snapshot with
    | error error => trivial
    | ok bytes => cases hdecode : decode bytes <;> simp only [Store.reload, hdecode, Calm]
  have hnone := List.forall_mem_nil Calm
  simp only [start, Cache.createEvents, List.forall_mem_append, List.forall_mem_cons]
  exact ⟨⟨⟨trivial, trivial, hnone⟩, hwarnings, trivial, trivial, hnone⟩, hreloaded, trivial, hnone⟩

theorem calm_shutDown (service : Service) (signal : Signal) :
    ∀ event ∈ service.shutDownEvents signal (.ok ()), Calm event := by
  have hstop : ∀ event ∈ service.cache.stopEvents, Calm event := by
    intro event hmem
    unfold Cache.stopEvents at hmem
    cases hjanitor : service.cache.janitor? with
    | none =>
        rw [hjanitor] at hmem
        exact absurd hmem List.not_mem_nil
    | some janitor =>
        rw [hjanitor] at hmem
        simp only [Janitor.farewell] at hmem
        split at hmem
        · obtain rfl := List.mem_singleton.1 hmem
          trivial
        · exact absurd hmem List.not_mem_nil
  have hclosing : ∀ event ∈ if service.cache.running then [Event.cacheClosing] else [],
      Calm event := by
    intro event hmem
    split at hmem
    · obtain rfl := List.mem_singleton.1 hmem
      trivial
    · exact absurd hmem List.not_mem_nil
  have hnone := List.forall_mem_nil Calm
  simp only [shutDownEvents, List.forall_mem_append, List.forall_mem_cons]
  exact ⟨⟨⟨⟨trivial, trivial, trivial, hnone⟩, hclosing⟩, trivial, hnone⟩, hstop⟩

/-- A run that ends before anything is due is undisturbed, if its snapshot can be written. -/
theorem undisturbed_of_no_wake {filter : Filter}
    (hfilter : Filter.ofEnvironment environment = .ok filter)
    (hwritable : ∀ image, ∃ after,
      disk.write (Config.ofEnvironment environment).snapshotPath image = .ok after)
    (signal : Signal) (clock : Clock) :
    (runThrough environment [] signal clock disk).Undisturbed := by
  let config := Config.ofEnvironment environment
  let started := start config 0 clock (disk.read config.snapshotPath)
  obtain ⟨after, hwrite⟩ := hwritable started.service.image
  obtain ⟨hexit, -, hlog, -⟩ :
      (runThrough environment [] signal clock disk).exitCode = 0 ∧ _ := runThrough_of_filter hfilter
  have hcalm : ∀ event ∈ (runThrough environment [] signal clock disk).log, Calm event := by
    rw [hlog, wakeAll, hwrite, List.append_nil]
    exact List.forall_mem_append.2 ⟨calm_start _ _ _ _, calm_shutDown _ _⟩
  refine ⟨hexit, ?_, ?_⟩
  · intro error hmem
    exact (hcalm _ hmem).elim
  · intro removed hmem
    exact (hcalm _ hmem).elim

theorem saved_of_undisturbed
    (h : (runThrough environment wakes signal clock disk).Undisturbed)
    (hfile : disk.IsFilePath (Config.ofEnvironment environment).snapshotPath) :
    let config := Config.ofEnvironment environment
    let report := runThrough environment wakes signal clock disk
    let records := found (disk.read config.snapshotPath)
    report.restored = (records.map Prod.fst).dedup.length ∧
      report.log.filterMap Event.restored? = [(records.map Prod.fst).dedup.length] ∧
      report.disk.IsFilePath config.snapshotPath ∧
      ∃ bytes saved, report.disk.read config.snapshotPath = .ok bytes ∧
        decode bytes = .ok saved ∧ (saved.map Prod.fst).Nodup ∧
        ∀ key text, (key, text) ∈ saved ↔
          config.snapshotPrefix.toList <+: key.toList ∧ IsLast records (key, text) := by
  intro config report records
  obtain ⟨hrestored, htold, hwrite⟩ := write_of_undisturbed h
  have hentries := Store.entries_reload config.snapshotPath config.snapshotPolicy
    (disk.read config.snapshotPath) clock
  let reloaded := ({} : Store String String).reload config.snapshotPath config.snapshotPolicy
    (disk.read config.snapshotPath) clock
  let saved := reloaded.store.records config.snapshotPolicy
  have hmem : ∀ key text, (key, text) ∈ saved ↔
      config.snapshotPrefix.toList <+: key.toList ∧ IsLast records (key, text) := by
    intro key text
    rw [← List.isPrefixOf_iff_prefix]
    exact Store.mem_records.trans (Store.saves_reload _ _ _ _ _ _ _)
  have hkeys : (saved.map Prod.fst).Nodup := Store.nodup_keys_records _ _
  have hsubset : saved ⊆ records := by
    rintro ⟨key, text⟩ hsaved
    exact mem_of_isLast ((hmem key text).1 hsaved).2
  -- Nothing is saved that was not in a file, so it fits into one.
  obtain ⟨hcount, hfits⟩ := fits_of_found (disk.read config.snapshotPath)
  have hlength : saved.length < UInt64.size := by
    have hle := (List.subperm_of_subset (List.Nodup.of_map Prod.fst hkeys) hsubset).length_le
    exact hle.trans_lt hcount
  have hdecode : decode (encode saved) = .ok saved := by
    have happend := decode_encode_append hlength (fun record hrecord =>
      hfits record (hsubset hrecord)) []
    rwa [List.append_nil] at happend
  obtain ⟨after, hafter, hread⟩ := Disk.read_write hfile (encode saved)
  obtain rfl : report.disk = after := Except.ok.inj (hwrite.symm.trans hafter)
  rw [hentries] at hrestored htold
  exact ⟨hrestored, htold, hfile.after_write hwrite, encode saved, saved, hread, hdecode, hkeys,
    hmem⟩

/-- **A run projects the snapshot file onto the configured prefix.** Whatever stands in the file, an
undisturbed run says once that it restored the number of its distinct keys, if a counter of 32 bits
can count them, and leaves the last records of the keys with the prefix, none if the file is no
snapshot. After a second undisturbed run the file holds the same records. -/
theorem runThrough_projects (environment : Environment) (wakes : List (Nat × Clock))
    (signal : Signal) (clock : Clock) (disk : Disk)
    (h : (runThrough environment wakes signal clock disk).Undisturbed)
    (hfile : disk.IsFilePath (Config.ofEnvironment environment).snapshotPath) :
    let config := Config.ofEnvironment environment
    let report := runThrough environment wakes signal clock disk
    let records := found (disk.read config.snapshotPath)
    let keys := (records.map Prod.fst).dedup
    (keys.length < 2 ^ 32 →
      report.restored = keys.length ∧ report.log.filterMap Event.restored? = [keys.length]) ∧
      ∃ bytes saved, report.disk.read config.snapshotPath = .ok bytes ∧
        decode bytes = .ok saved ∧ (saved.map Prod.fst).Nodup ∧
        (∀ key text, (key, text) ∈ saved ↔
          config.snapshotPrefix.toList <+: key.toList ∧ IsLast records (key, text)) ∧
        ∀ later signal' clock',
          let second := runThrough environment later signal' clock' report.disk
          second.Undisturbed → ∃ bytes' saved',
            second.disk.read config.snapshotPath = .ok bytes' ∧ decode bytes' = .ok saved' ∧
              saved'.Perm saved := by
  intro config report records keys
  obtain ⟨hrestored, htold, hfile', bytes, saved, hread, hdecode, hkeys, hmem⟩ :=
    saved_of_undisturbed h hfile
  refine ⟨fun _ => ⟨hrestored, htold⟩, bytes, saved, hread, hdecode, hkeys, hmem, ?_⟩
  intro later signal' clock' second hsecond
  obtain ⟨-, -, -, bytes', saved', hread', hdecode', hkeys', hmem'⟩ :=
    saved_of_undisturbed hsecond hfile'
  refine ⟨bytes', saved', hread', hdecode', ?_⟩
  have hfound : found (report.disk.read config.snapshotPath) = saved := by
    rw [hread, found, hdecode]
    rfl
  -- The second run starts from distinct keys that all have the prefix: it has nothing to drop.
  apply (List.perm_ext_iff_of_nodup (.of_map _ hkeys') (.of_map _ hkeys)).2
  rintro ⟨key, text⟩
  rw [hmem', hfound, isLast_iff_mem hkeys]
  exact and_iff_right_of_imp fun hsaved => ((hmem key text).1 hsaved).1

/-- A key stands twice in the file, another one lacks the prefix. -/
theorem runThrough_projects_of_repeated_key :
    let environment : Environment := [("SNAPSHOT_PATH", Utf8.encode "a")]
    let records : List Record := [("fakeip:x", "1"), ("k", "2"), ("fakeip:x", "3")]
    let clock : Clock := { steady := { seconds := 1 } }
    ∃ disk, Disk.blank.write "a" (encode records) = .ok disk ∧ disk.IsFilePath "a" ∧
      let report := runThrough environment [] .terminate clock disk
      report.Undisturbed ∧ report.log.filterMap Event.restored? = [2] ∧
        ∃ bytes saved, report.disk.read "a" = .ok bytes ∧ decode bytes = .ok saved ∧
          ("fakeip:x", "3") ∈ saved := by
  intro environment records clock
  obtain ⟨disk, hwrite, hread⟩ := Disk.read_write Disk.isFilePath_blank (encode records)
  have hfile := Disk.isFilePath_blank.after_write hwrite
  have hpath : (Config.ofEnvironment environment).snapshotPath = "a" := by decide
  have hprefix : (Config.ofEnvironment environment).snapshotPrefix = "fakeip:" := by decide
  have hfilter : Filter.ofEnvironment environment = .ok Filter.standard := by decide
  have hwritable : ∀ image, ∃ after,
      disk.write (Config.ofEnvironment environment).snapshotPath image = .ok after := by
    intro image
    obtain ⟨after, hafter, -⟩ := Disk.read_write hfile image
    exact ⟨after, hpath ▸ hafter⟩
  have hundisturbed := undisturbed_of_no_wake hfilter hwritable .terminate clock
  have hfound : found (disk.read "a") = records := by
    rw [hread, found, decode_encode_of_length_lt (by decide)]
    rfl
  obtain ⟨htold, bytes, saved, hbytes, hdecode, -, hmem, -⟩ :=
    runThrough_projects environment [] .terminate clock disk hundisturbed (hpath ▸ hfile)
  have hcount : (records.map Prod.fst).dedup.length = 2 := by decide
  rw [hpath, hfound, hcount] at htold
  rw [hpath] at hbytes
  simp only [hpath, hprefix, hfound] at hmem
  have hlast : IsLast records ("fakeip:x", "3") :=
    ⟨[("fakeip:x", "1"), ("k", "2")], [], rfl, by simp⟩
  exact ⟨disk, hwrite, hfile, hundisturbed, (htold (by decide)).2, bytes, saved, hbytes, hdecode,
    (hmem _ _).2 ⟨by decide, hlast⟩⟩

/-- Where what is written is lost, a run saves its snapshot and leaves none. -/
theorem runThrough_leaves_nothing_in_sink :
    let environment : Environment := [("SNAPSHOT_PATH", Utf8.encode "/dev/null")]
    let report := runThrough environment [] .terminate { steady := { seconds := 1 } } .blank
    report.Undisturbed ∧ ∀ bytes saved, report.disk.read "/dev/null" = .ok bytes →
      decode bytes ≠ .ok saved := by
  intro environment report
  have hpath : (Config.ofEnvironment environment).snapshotPath = "/dev/null" := by decide
  have hfilter : Filter.ofEnvironment environment = .ok Filter.standard := by decide
  have hwrite := Disk.write_of_isSinkPath Disk.isSinkPath_blank
  have hundisturbed : report.Undisturbed :=
    undisturbed_of_no_wake hfilter (fun image => ⟨_, hpath ▸ hwrite image⟩) .terminate _
  refine ⟨hundisturbed, fun bytes saved hread => ?_⟩
  have hdisk : report.disk = .blank := by
    have hsaved := (write_of_undisturbed hundisturbed).2.2
    rw [hpath, hwrite] at hsaved
    exact (Except.ok.inj hsaved).symm
  rw [hdisk, Disk.read_blank_sink] at hread
  obtain rfl := Except.ok.inj hread
  exact fun hdecode => nomatch hdecode

end Service

end ExpiringCache
