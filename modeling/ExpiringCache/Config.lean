import ExpiringCache.Snapshot.Policy
import ExpiringCache.Text.Numeral
import ExpiringCache.Text.Utf8
/-!
# Configuration

Four settings, each with a default. From an environment each setting is read from a variable of its
own; a variable that is missing, is no UTF-8 or holds no value of the setting's form leaves the
default.
-/

namespace ExpiringCache

structure Config where
  cleanupInterval : Duration := .ofSeconds 1
  snapshotPath : String := "cache.db"
  snapshotPrefix : String := "fakeip:"
  /-- How long reloaded entries live. -/
  reloadTtl : Duration := .ofSeconds 600
deriving DecidableEq

abbrev Environment := List (String × List UInt8)

/-- The value of a variable, if it is set and is text. -/
def Environment.text? (environment : Environment) (name : String) : Option String :=
  (environment.lookup name).bind fun bytes => (Utf8.decode bytes).toOption

/-- A setting given after the others, in place of the value so far. -/
inductive Config.Setting where
  | cleanupInterval (interval : Duration)
  | snapshotPath (path : String)
  | snapshotPrefix (text : String)
  | reloadTtl (ttl : Duration)

namespace Config

def cleanupInterval? (text : String) : Option Duration :=
  (Numeral.word? text).map Duration.ofMillis

/-- The snapshot file that a text sets: any but the empty one. -/
def snapshotPath? (text : String) : Option String :=
  if text = "" then none else some text

def reloadTtl? (text : String) : Option Duration :=
  (Numeral.word? text).map Duration.ofSeconds

def ofEnvironment (environment : Environment) : Config where
  cleanupInterval :=
    ((environment.text? "CLEANUP_INTERVAL_MS").bind cleanupInterval?).getD
      ({} : Config).cleanupInterval
  snapshotPath :=
    ((environment.text? "SNAPSHOT_PATH").bind snapshotPath?).getD ({} : Config).snapshotPath
  snapshotPrefix := (environment.text? "SNAPSHOT_PREFIX").getD ({} : Config).snapshotPrefix
  reloadTtl :=
    ((environment.text? "RELOAD_TTL_SECS").bind reloadTtl?).getD ({} : Config).reloadTtl

def set (config : Config) : Setting → Config
  | .cleanupInterval interval => { config with cleanupInterval := interval }
  | .snapshotPath path => { config with snapshotPath := path }
  | .snapshotPrefix text => { config with snapshotPrefix := text }
  | .reloadTtl ttl => { config with reloadTtl := ttl }

def snapshotPolicy (config : Config) : SnapshotPolicy where
  filter := .startingWith config.snapshotPrefix
  reloadTtl := config.reloadTtl

def text (config : Config) : String :=
  s!"CacheConfig \x7b cleanup_interval: {config.cleanupInterval.text}, " ++
    s!"snapshot_path: {Text.quoted config.snapshotPath}, " ++
    s!"snapshot_prefix: {Text.quoted config.snapshotPrefix}, " ++
    s!"reload_ttl: {config.reloadTtl.text} \x7d"

end Config

end ExpiringCache
