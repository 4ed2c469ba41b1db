import ExpiringCache.Log.Line
import ExpiringCache.Service
import Std.Async.Signal
import Std.Time.DateTime.Timestamp
/-!
# Command line

Runs the cache service on the real clocks, environment and files, and writes its log to standard
output. The service shuts down when the process is asked to terminate or is interrupted.
-/

namespace ExpiringCache.CommandLine

open Log

def variableNames : List String :=
  ["CLEANUP_INTERVAL_MS", "SNAPSHOT_PATH", "SNAPSHOT_PREFIX", "RELOAD_TTL_SECS", "RUST_LOG"]

def environment : IO Environment :=
  variableNames.filterMapM fun name => do
    return (← IO.getEnv name).map fun value => (name, Utf8.encode value)

def clock : IO Clock := do
  let now ← Std.Time.Timestamp.now
  return { steady := .ofNanos now.toNanosecondsSinceUnixEpoch.val }

/-- Why the system refused an operation on a file. -/
def refusal : IO.Error → IoError
  | .noFileOrDirectory _ code _
  | .permissionDenied _ code _
  | .inappropriateType _ code _
  | .alreadyExists _ code _
  | .invalidArgument _ code _
  | .resourceExhausted _ code _
  | .otherError code _ => .system code.toNat
  | error => .described .other error.toString

def readSnapshot (path : String) : IO (Except IoError (List UInt8)) := do
  try
    return .ok (← IO.FS.readBinFile path).toList
  catch error =>
    return .error (refusal error)

def writeSnapshot (path : String) (content : List UInt8) : IO (Except IoError Unit) := do
  try
    IO.FS.writeBinFile path ⟨content.toArray⟩
    return .ok ()
  catch error =>
    return .error (refusal error)

/-- Writes the events that a filter lets through to standard output. -/
def report (filter : Filter) (log : List Event) : IO Unit := do
  let output ← IO.getStdout
  for event in log do
    if filter.Shows event then
      output.putStrLn s!"{event.level.text} {event.origin.text}: {event.line}"
  output.flush

/-- Lets the janitor work until one of the signals arrives. -/
partial def serve (filter : Filter) (service : Service) (signals : List (Signal × Task Bool)) :
    IO (Service × Signal) := do
  for (signal, arrival) in signals do
    if ← IO.hasFinished arrival then return (service, signal)
  let (service, _, log) := service.wake (← IO.monoNanosNow) (← clock)
  report filter log
  IO.sleep 1
  serve filter service signals

def arrival (signal : Std.Async.Signal) : IO (Task Bool) := do
  let waiter ← Std.Async.Signal.Waiter.mk signal false
  return Task.map Except.toBool (← waiter.wait)

/-- Runs the service until it is told to shut down; returns the exit code. -/
def run : IO UInt32 := do
  let environment ← environment
  match Filter.ofEnvironment environment with
  | .error _ => return UInt32.ofNat Service.abortCode
  | .ok filter =>
    let config := Config.ofEnvironment environment
    let snapshot ← readSnapshot config.snapshotPath
    let started := Service.start config (← IO.monoNanosNow) (← clock) snapshot
    report filter started.log
    let signals :=
      [(Signal.terminate, ← arrival .sigterm), (Signal.interrupt, ← arrival .sigint)]
    let (service, signal) ← serve filter started.service signals
    let written ← writeSnapshot config.snapshotPath service.image
    report filter (service.shutDownEvents signal written)
    return 0

end ExpiringCache.CommandLine

def main : IO UInt32 := ExpiringCache.CommandLine.run
