import ExpiringCache.Janitor.Basic
import ExpiringCache.Snapshot.Persistence
import ExpiringCache.Store.Request
/-!
# Caches

A cache is a store and the janitor that sweeps it, if there is one. A managed cache starts with a
janitor and announces when it is closed; any other gets its janitors one by one, and a new one takes
the place of the one before it. A janitor that is let go is told to stop; it has the store before it
until it leaves, even if nobody else has the cache any more.

`Cache.wake` lets one janitor do what is due; `Cache.run` carries out one command. Both say what
goes to the log. Once its janitors have left, a cache changes through its commands alone.
-/

namespace ExpiringCache

open Log

/-- A store with the janitor that sweeps it. -/
structure Cache (ν : Type) where
  store : Store String ν := {}
  janitor? : Option Janitor := none
  /-- The janitors that were let go, the first of them first. -/
  former : List Janitor := []
  /-- The timer of its janitors. -/
  timer : Timer := .standard
  /-- Whether the cache announces that it closes. -/
  managed : Bool := false
  /-- Whether nobody but the janitors can reach the cache any more. -/
  discarded : Bool := false

/-- Where a cache keeps a janitor. -/
inductive Station where
  | resident
  /-- Among the janitors that were let go. -/
  | former (index : Nat)
deriving DecidableEq

/-- Why nothing could be started in the background. -/
inductive LaunchError where
  | cacheOutsideRuntime
  | janitorOutsideRuntime
deriving DecidableEq

def LaunchError.text : LaunchError → String
  | cacheOutsideRuntime =>
    "ttl_cache::Cache requires a Tokio runtime. Create it from within a #[tokio::main] or " ++
      "#[tokio::test] context, or from code running on a Tokio runtime."
  | janitorOutsideRuntime =>
    "there is no reactor running, must be called from the context of a Tokio 1.x runtime"

inductive Command (ν : Type) where
  | serve (request : Request String ν)
  /-- Requests of several callers that do not depend on one another. -/
  | serveEach (callers : List (List (Request String ν)))
  | save (path : String) (policy : SnapshotPolicy)
  | reload (path : String) (policy : SnapshotPolicy)
  | isRunning
  | close
  | discard
  /-- Starts a janitor, where there is a runtime to start it on. -/
  | startJanitor (interval : Duration) (onRuntime : Bool)
  | janitorInterval
  /-- Tells the janitor to stop and lets it go. -/
  | releaseJanitor

inductive Reply (ν : Type) where
  | done
  | response (response : Response ν)
  | responses (callers : List (List (Response ν)))
  | entries (count : Nat)
  | failed (error : CacheError)
  | running (running : Bool)
  | interval (interval? : Option Duration)
  | notLaunched (error : LaunchError)

/-- What a command leaves behind. -/
structure Outcome (ν : Type) where
  reply : Reply ν
  /-- The cache, unless it was discarded. -/
  cache? : Option (Cache ν)
  clock : Clock
  disk : Disk
  log : List Event := []

namespace Cache

variable {ν : Type}

def running (cache : Cache ν) : Bool := cache.janitor?.any (·.running)

def stop (cache : Cache ν) : Cache ν := { cache with janitor? := cache.janitor?.map Janitor.stop }

def stopEvents (cache : Cache ν) : List Event :=
  match cache.janitor? with
  | some janitor => janitor.farewell janitor.stop
  | none => []

/-- Tells the janitor to stop and lets it go. -/
def letGo (cache : Cache ν) : Cache ν :=
  { cache with janitor? := none, former := cache.former ++ cache.stop.janitor?.toList }

/-- What is left of a cache that was discarded: its janitors may still have to leave. -/
def discard (cache : Cache ν) : Cache ν := { cache.letGo with discarded := true }

def janitorAt? (cache : Cache ν) : Station → Option Janitor
  | .resident => cache.janitor?
  | .former index => cache.former[index]?

def setJanitor (cache : Cache ν) (station : Station) (janitor : Janitor) : Cache ν :=
  match station with
  | .resident => { cache with janitor? := some janitor }
  | .former index => { cache with former := cache.former.set index janitor }

/-- The janitors of a cache and where it keeps them. -/
def janitors (cache : Cache ν) : List (Station × Janitor) :=
  (cache.janitor?.toList.map fun janitor => (.resident, janitor)) ++
    cache.former.zipIdx.map fun (janitor, index) => (.former index, janitor)

def create (timer : Timer) (interval : Duration) (now turn : Nat) : Cache ν where
  janitor? := some (.start timer interval now turn)
  timer := timer
  managed := true

def createEvents (interval : Duration) : List Event :=
  Janitor.intervalWarnings interval ++
    [.cacheCreated (Janitor.effectiveInterval interval),
      .janitorStarted (Janitor.effectiveInterval interval)]

def sweep (store : Store String ν) (clock : Clock) : Nat → Store String ν × Clock × List Event
  | 0 => (store, clock, [])
  | n + 1 =>
    let (removed, store, clock) := store.purge clock
    let (store, clock, log) := sweep store clock n
    (store, clock, .swept removed :: log)

/-- Lets the janitor at a station do what is due. -/
def wake (cache : Cache ν) (station : Station) (now turn lingers : Nat) (clock : Clock) :
    Cache ν × Clock × List Event :=
  match cache.janitorAt? station with
  | none => (cache, clock, [])
  | some janitor =>
    let (sweeps, woken) := janitor.wake now turn lingers
    let (store, clock, log) := sweep cache.store clock sweeps
    ({ cache with store }.setJanitor station woken, clock, log ++ janitor.farewell woken)

/-- Carries out the requests of each caller, one caller after the other. -/
def serveEach (store : Store String ν) (clock : Clock) :
    List (List (Request String ν)) → List (List (Response ν)) × Store String ν × Clock
  | [] => ([], store, clock)
  | requests :: rest =>
    let (responses, store, clock) := store.serveAll clock requests
    let (others, store, clock) := serveEach store clock rest
    (responses :: others, store, clock)

variable [SnapshotText ν]

def run (cache : Cache ν) (now turn : Nat) (clock : Clock) (disk : Disk) :
    Command ν → Outcome ν
  | .serve request =>
    let (response, store, clock) := cache.store.serve clock request
    { reply := .response response, cache? := some { cache with store }, clock, disk }
  | .serveEach callers =>
    let (responses, store, clock) := serveEach cache.store clock callers
    { reply := .responses responses, cache? := some { cache with store }, clock, disk }
  | .save path policy =>
    match cache.store.save path policy disk with
    | .ok (count, disk) =>
      { reply := .entries count
        cache? := some cache
        clock, disk
        log := [.snapshotSaved count path] }
    | .error error => { reply := .failed error, cache? := some cache, clock, disk }
  | .reload path policy =>
    let reloaded := cache.store.reload path policy (disk.read path) clock
    { reply := .entries reloaded.entries
      cache? := some { cache with store := reloaded.store }
      clock := reloaded.clock
      disk
      log := [reloaded.event] }
  | .isRunning => { reply := .running cache.running, cache? := some cache, clock, disk }
  | .close =>
    let announcement := if cache.managed && cache.running then [Event.cacheClosing] else []
    { reply := .done
      cache? := some cache.stop
      clock, disk
      log := announcement ++ cache.stopEvents }
  | .discard => { reply := .done, cache? := none, clock, disk, log := cache.stopEvents }
  | .startJanitor interval onRuntime =>
    let warnings := Janitor.intervalWarnings interval
    if onRuntime then
      let janitor := Janitor.start cache.timer interval now turn
      { reply := .interval (some janitor.interval)
        cache? := some { cache.letGo with janitor? := some janitor }
        clock, disk
        log := warnings ++ .janitorStarted janitor.interval :: cache.stopEvents }
    else
      { reply := .notLaunched .janitorOutsideRuntime
        cache? := some cache
        clock, disk
        log := warnings }
  | .janitorInterval =>
    { reply := .interval (cache.janitor?.map (·.interval)), cache? := some cache, clock, disk }
  | .releaseJanitor =>
    { reply := .done, cache? := some cache.letGo, clock, disk, log := cache.stopEvents }

end Cache

end ExpiringCache
