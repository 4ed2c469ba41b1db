import ExpiringCache.Text.Quoted
import ExpiringCache.Time.Duration
/-!
# Snapshot policies

A policy says which keys a snapshot takes and how long reloaded entries live. Keys are compared as
exact sequences of code points.
-/

namespace ExpiringCache

/-- Which keys a snapshot takes. -/
inductive KeyFilter where
  /-- Keys that start with a text. -/
  | startingWith (text : String)
  | all
  /-- Keys that pass a test. -/
  | custom (test : String → Bool)

namespace KeyFilter

def accepts : KeyFilter → String → Bool
  | startingWith text, key => text.toList.isPrefixOf key.toList
  | all, _ => true
  | custom test, key => test key

/-- The filter of the snapshots that hold fake addresses. -/
def fakeAddresses : KeyFilter := startingWith "fakeip:"

def endingWith (text : String) : KeyFilter :=
  custom fun key => text.toList.isSuffixOf key.toList

/-- Whether the first characters occur, without a gap, in the second. -/
def occursIn (part : List Char) : List Char → Bool
  | [] => part.isEmpty
  | c :: rest => part.isPrefixOf (c :: rest) || occursIn part rest

def containing (text : String) : KeyFilter :=
  custom fun key => occursIn text.toList key.toList

/-- Keys of more than so many bytes. -/
def longerThan (bytes : Nat) : KeyFilter :=
  custom fun key => bytes < key.utf8ByteSize

def nothing : KeyFilter := custom fun _ => false

/-- The filter in words; a test has none. -/
def text : KeyFilter → String
  | startingWith text => s!"Prefix({Text.quoted text})"
  | all => "All"
  | custom _ => "Custom(..)"

end KeyFilter

structure SnapshotPolicy where
  filter : KeyFilter := .fakeAddresses
  /-- How long reloaded entries live. -/
  reloadTtl : Duration := .ofSeconds 600

def SnapshotPolicy.text (policy : SnapshotPolicy) : String :=
  s!"SnapshotPolicy \x7b filter: {policy.filter.text}, " ++
    s!"reload_ttl: {policy.reloadTtl.text} \x7d"

end ExpiringCache
