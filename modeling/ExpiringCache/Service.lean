import ExpiringCache.Cache
import ExpiringCache.Log.Filter.Parser
/-!
# The cache service

A service takes its configuration from the environment, reloads its snapshot, runs until it is told
to shut down, and saves the snapshot again. A snapshot that cannot be reloaded or saved is only
logged.
-/

namespace ExpiringCache

open Log

structure Service where
  config : Config
  cache : Cache String

structure Service.Started where
  service : Service
  clock : Clock
  /-- The number of entries reloaded. -/
  restored : Nat
  log : List Event

/-- What a run of a service leaves behind. -/
structure Service.Report where
  exitCode : Nat := 0
  restored : Nat
  /-- Everything that happened, from the first event to the last. -/
  log : List Event
  /-- The events that the filter of the log lets through. -/
  shown : List Event
  disk : Disk

namespace Service

/-- Starts a service, given what was read at the path of its snapshot. -/
def start (config : Config) (now : Nat) (clock : Clock)
    (snapshot : Except IoError (List UInt8)) : Started :=
  let cache : Cache String := .create .standard config.cleanupInterval now 0
  let reloaded := cache.store.reload config.snapshotPath config.snapshotPolicy snapshot clock
  { service := { config, cache := { cache with store := reloaded.store } }
    clock := reloaded.clock
    restored := reloaded.entries
    log :=
      [.serviceStarting, .configLoaded config] ++ Cache.createEvents config.cleanupInterval ++
        [reloaded.event, .entriesRestored reloaded.entries] }

def wake (service : Service) (now : Nat) (clock : Clock) : Service × Clock × List Event :=
  let (cache, clock, log) := service.cache.wake .resident now 0 0 clock
  ({ service with cache }, clock, log)

def image (service : Service) : List UInt8 :=
  service.cache.store.image service.config.snapshotPolicy

def savedEntries (service : Service) : Nat :=
  (service.cache.store.records service.config.snapshotPolicy).length

/-- What the log says when the service shuts down, given how saving its snapshot went. -/
def shutDownEvents (service : Service) (signal : Signal) (written : Except IoError Unit) :
    List Event :=
  let saved :=
    match written with
    | .ok _ => Event.snapshotSaved service.savedEntries service.config.snapshotPath
    | .error error => Event.saveFailed (.io error)
  let closing := if service.cache.running then [Event.cacheClosing] else []
  [.shutdownRequested signal, saved, .statistics service.cache.store.stats] ++ closing ++
    [.serviceStopped] ++ service.cache.stopEvents

/-- The exit code of a service that ends before it starts. -/
def abortCode : Nat := 101

/-- Runs a service that is told to shut down before anything is due. It ends at once if the filter
of its log cannot be cut into pieces. -/
def run (environment : Environment) (signal : Signal) (clock : Clock) (disk : Disk) : Report :=
  match Filter.ofEnvironment environment with
  | .error _ => { exitCode := abortCode, restored := 0, log := [], shown := [], disk }
  | .ok filter =>
    let config := Config.ofEnvironment environment
    let started := start config 0 clock (disk.read config.snapshotPath)
    let written := disk.write config.snapshotPath started.service.image
    let log := started.log ++ started.service.shutDownEvents signal (written.map fun _ => ())
    { restored := started.restored
      log
      shown := log.filter fun event => filter.Shows event
      disk := written.toOption.getD disk }

end Service

end ExpiringCache
