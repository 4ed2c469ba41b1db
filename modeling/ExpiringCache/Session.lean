import ExpiringCache.Cache
import ExpiringCache.Snapshot.Canonical
/-!
# Sessions

Several caches under one wall clock and one running clock, with one disk. Time passes in the steps
of a session alone; whenever it has passed, the janitors do what is due, the one that is due first
before the others, and of several due in the same millisecond the one that has waited longest. What
is left to chance about them is drawn beforehand, one number for each turn.

A step that shuts a janitor down waits until it has left. If the janitor still waits for its first
beat, the running clock goes on to that beat meanwhile, by a millisecond, and the wall clock does
not.
-/

namespace ExpiringCache

open Log

structure Session where
  clock : Clock
  /-- Nanoseconds since the session began. -/
  uptime : Nat := 0
  /-- The turn of the next janitor that sets out to wait for a beat. -/
  turn : Nat := 0
  /-- How long a janitor that was told to stop lingers if it wakes at a turn. -/
  lingers : Nat → Nat := fun _ => 0
  /-- The timer of all janitors. -/
  timer : Timer := .standard
  disk : Disk := .blank
  /-- The caches; one that was discarded keeps its place. -/
  caches : List (Option (Cache Payload)) := []

/-- Where a session keeps a janitor. -/
structure Post where
  place : Nat
  station : Station
deriving DecidableEq

inductive Step where
  | setClock (now : Instant)
  /-- Fixes the next readings of the wall clock. -/
  | setReadings (readings : List Instant)
  | advance (elapsed : Duration)
  | elapse (millis : Nat)
  | writeFile (path : String) (content : List UInt8)
  | makeDirectory (path : String)
  | showFile (path : String)
  /-- Asks something of the cache at a place. -/
  | command (place : Nat) (command : Command Payload)
  | shutDownJanitor (place : Nat)

inductive Answer where
  | done
  | content (bytes? : Option (List UInt8))
  | reply (reply : Reply Payload)
  | noSuchCache

/-- What a new place in a session is for. -/
inductive Member where
  /-- An empty store without a janitor. -/
  | bare
  /-- An empty managed cache, where there is a runtime to start its janitor on. -/
  | managed (interval : Duration) (onRuntime : Bool)

namespace Session

/-- The cache at a place, also if it was discarded. -/
def kept? (session : Session) (place : Nat) : Option (Cache Payload) :=
  (session.caches[place]?).join

def cache? (session : Session) (place : Nat) : Option (Cache Payload) :=
  (session.kept? place).filter fun cache => !cache.discarded

def stats? (session : Session) (place : Nat) : Option Stats :=
  (session.cache? place).map (·.store.stats)

def add (session : Session) (member : Member) :
    Except LaunchError Unit × Session × List Event :=
  match member with
  | .bare =>
    (.ok (), { session with caches := session.caches ++ [some { timer := session.timer }] }, [])
  | .managed interval true =>
    let cache := Cache.create session.timer interval session.uptime session.turn
    (.ok (),
      { session with turn := session.turn + 1, caches := session.caches ++ [some cache] },
      Cache.createEvents interval)
  | .managed _ false =>
    (.error .cacheOutsideRuntime, { session with caches := session.caches ++ [none] }, [])

def janitors (session : Session) : List (Post × Janitor) :=
  session.caches.zipIdx.flatMap fun (cache?, place) =>
    cache?.toList.flatMap fun cache =>
      cache.janitors.map fun (station, janitor) => ({ place, station }, janitor)

/-- The posts of the janitors that have something to do, in the order in which they do it. -/
def wakeOrder (session : Session) : List Post :=
  let due := session.janitors.filter fun (_, janitor) => janitor.DueAt session.uptime
  (due.mergeSort fun a b => a.2.Precedes b.2).map Prod.fst

def wakeAt (session : Session) (post : Post) : Session × List Event :=
  match session.kept? post.place with
  | none => (session, [])
  | some cache =>
    let (cache, clock, log) := cache.wake post.station session.uptime session.turn
      (session.lingers session.turn) session.clock
    ({ session with
        clock
        turn := session.turn + 1
        caches := session.caches.set post.place (some cache) },
      log)

def wakeEach (session : Session) : List Post → Session × List Event
  | [] => (session, [])
  | post :: rest =>
    let (session, log) := session.wakeAt post
    let (session, later) := session.wakeEach rest
    (session, log ++ later)

def wake (session : Session) : Session × List Event := session.wakeEach session.wakeOrder

def advance (session : Session) (elapsed : Duration) : Session × List Event :=
  wake { session with
    clock := session.clock.advance elapsed
    uptime := session.uptime + elapsed.toNanos }

def elapse (session : Session) : Nat → Session × List Event
  | 0 => (session, [])
  | millis + 1 =>
    let (session, log) := session.advance { seconds := 0, nanos := nanosPerMilli }
    let (session, later) := session.elapse millis
    (session, log ++ later)

def ask (session : Session) (place : Nat) (command : Command Payload) :
    Answer × Session × List Event :=
  match session.cache? place with
  | none => (.noSuchCache, session, [])
  | some cache =>
    let outcome := cache.run session.uptime session.turn session.clock session.disk command
    (.reply outcome.reply,
      { session with
        clock := outcome.clock
        turn := session.turn + 1
        disk := outcome.disk
        caches := session.caches.set place (some (outcome.cache?.getD cache.discard)) },
      outcome.log)

/-- Tells the janitor at a place to stop, and lets the running clock go on until it has left. -/
def shutDownJanitor (session : Session) (place : Nat) : Answer × Session × List Event :=
  let waits := (session.cache? place).any fun cache =>
    cache.stop.janitor?.any fun janitor => janitor.phase ≠ .stopped
  let (answer, session, log) := session.ask place .releaseJanitor
  if waits then
    let (session, later) := wake { session with uptime := session.uptime + nanosPerMilli }
    (answer, session, log ++ later)
  else (answer, session, log)

/-- Takes a step. Files and directories that cannot be made are left out. -/
def take (session : Session) : Step → Answer × Session × List Event
  | .setClock now => (.done, { session with clock := { session.clock with steady := now } }, [])
  | .setReadings readings =>
    (.done, { session with clock := { session.clock with queued := readings } }, [])
  | .advance elapsed => (.done, session.advance elapsed)
  | .elapse millis => (.done, session.elapse millis)
  | .writeFile path content =>
    (.done, { session with disk := (session.disk.write path content).toOption.getD session.disk },
      [])
  | .makeDirectory path =>
    (.done, { session with disk := (session.disk.makeDirectory path).toOption.getD session.disk },
      [])
  | .showFile path =>
    (.content ((session.disk.read path).toOption.map Snapshot.canonical), session, [])
  | .command place command => session.ask place command
  | .shutDownJanitor place => session.shutDownJanitor place

end Session

end ExpiringCache
