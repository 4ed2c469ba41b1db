import ExpiringCache.Config
import ExpiringCache.Error
import ExpiringCache.Stats
/-!
# Log events

What is worth a line in the log, with the level of each event, the part it comes from and its words.
-/

namespace ExpiringCache.Log

inductive Level where
  | error
  | warn
  | info
  | debug
  | trace
deriving DecidableEq

namespace Level

/-- The gravest level has rank one. -/
def rank : Level → Nat
  | error => 1
  | warn => 2
  | info => 3
  | debug => 4
  | trace => 5

def text : Level → String
  | error => "ERROR"
  | warn => "WARN"
  | info => "INFO"
  | debug => "DEBUG"
  | trace => "TRACE"

end Level

inductive Origin where
  | service
  | cache
  | janitor
  | snapshot
deriving DecidableEq

/-- The name under which a part writes to the log. -/
def Origin.text : Origin → String
  | service => "ttl_cache"
  | cache => "ttl_cache::cache::handle"
  | janitor => "ttl_cache::tasks::janitor"
  | snapshot => "ttl_cache::persistence::snapshot"

inductive Signal where
  | terminate
  | interrupt
deriving DecidableEq

def Signal.text : Signal → String
  | terminate => "SIGTERM"
  | interrupt => "Ctrl+C"

inductive Event where
  /-- A sweep interval is too short and is replaced by the shortest one. -/
  | intervalTooShort (interval shortest : Duration)
  | janitorStarted (interval : Duration)
  | janitorStopped
  | swept (removed : Nat)
  | cacheCreated (interval : Duration)
  | cacheClosing
  | snapshotSaved (entries : Nat) (path : String)
  | snapshotUnreadable (path : String) (error : IoError)
  | snapshotUndecodable (path : String) (error : CodecError)
  | snapshotReloaded (entries : Nat) (path : String)
  | serviceStarting
  | configLoaded (config : Config)
  | entriesRestored (entries : Nat)
  | shutdownRequested (signal : Signal)
  | saveFailed (error : CacheError)
  | statistics (stats : Stats)
  | serviceStopped
deriving DecidableEq

namespace Event

def level : Event → Level
  | intervalTooShort .. | snapshotUndecodable .. => .warn
  | swept removed => if 0 < removed then .info else .debug
  | cacheCreated .. | snapshotUnreadable .. => .debug
  | saveFailed .. => .error
  | _ => .info

def origin : Event → Origin
  | intervalTooShort .. | janitorStarted .. | janitorStopped | swept .. => .janitor
  | cacheCreated .. | cacheClosing => .cache
  | snapshotSaved .. | snapshotUnreadable .. | snapshotUndecodable .. | snapshotReloaded .. =>
    .snapshot
  | _ => .service

def text : Event → String
  | intervalTooShort interval shortest =>
    s!"Sweep interval {interval.text} is below the minimum, using {shortest.text}"
  | janitorStarted interval => s!"Starting janitor with interval of {interval.text}"
  | janitorStopped => "Janitor stopped"
  | swept removed =>
    if 0 < removed then s!"Janitor sweep: removed {removed} expired entries"
    else "Janitor sweep: no expired entries found"
  | cacheCreated interval => s!"Cache created with sweep interval {interval.text}"
  | cacheClosing => "Closing cache, stopping janitor"
  | snapshotSaved entries path => s!"Snapshot saved: {entries} entries written to {path}"
  | snapshotUnreadable path error => s!"Snapshot {path} not loaded: {error.text}"
  | snapshotUndecodable path error => s!"Snapshot {path} could not be decoded: {error.text}"
  | snapshotReloaded entries path => s!"Snapshot reloaded: {entries} entries from {path}"
  | serviceStarting => "Starting TTL cache"
  | configLoaded config =>
    s!"Configuration loaded: cleanup_interval={config.cleanupInterval.text}, " ++
      s!"snapshot={config.snapshotPath}, prefix={config.snapshotPrefix}, " ++
      s!"reload_ttl={config.reloadTtl.text}"
  | entriesRestored entries => s!"Restored {entries} entries from snapshot"
  | shutdownRequested signal => s!"Received {signal.text}, initiating shutdown..."
  | saveFailed error => s!"Failed to save snapshot: {error.text}"
  | statistics stats => "Cache stats: " ++ stats.summary
  | serviceStopped => "Shutdown complete"

end Event

end ExpiringCache.Log
