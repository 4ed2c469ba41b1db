import ExpiringCache.Disk.IoError
import ExpiringCache.Table
/-!
# Files

A `Disk` is a tree of directories, files and devices, with a working directory. Paths are resolved
name by name: every name but the last has to lead to a directory, `.` stays and `..` goes up. A path
that ends in a slash can only mean a directory, so it is never created as a file.

Only an ordinary file keeps what is written to it. Of everything else that can stand in a directory
there are the two devices that a snapshot is most often sent to; links, pipes and the files by which
a system speaks of itself are left out.

`Disk.read` and `Disk.write` fail with the first error met on the way.
-/

namespace ExpiringCache

inductive Node where
  | directory
  /-- An ordinary file. -/
  | file (content : List UInt8)
  /-- Reads as empty and swallows what is written. -/
  | sink
  /-- Refuses what is written for lack of space. Reading it would never end; here it is empty. -/
  | full
deriving DecidableEq

/-- The names from a node up to the root, innermost first. -/
abbrev Location := List String

structure Path where
  absolute : Bool
  names : List String
  closed : Bool
deriving DecidableEq

/-- A file system and a working directory in it. -/
structure Disk where
  nodes : Table Location Node := ∅
  home : Location := []

namespace Path

def longestName : Nat := 255

def longest : Nat := 4095

/-- Cuts a text at its slashes, unless no system call takes it as a path. -/
def parse (text : String) : Except IoError Path :=
  if '\x00' ∈ text.toList then .error .nullInPath
  else if text.isEmpty then .error (.system SystemError.noEntry)
  else if longest < text.utf8ByteSize then .error (.system SystemError.nameTooLong)
  else .ok {
    absolute := text.toList.head? = some '/'
    names := (text.splitOn "/").filter (· ≠ "")
    closed := text.toList.getLast? = some '/' }

end Path

namespace Disk

/-- The node at a location; the root is a directory. -/
def node? (disk : Disk) : Location → Option Node
  | [] => some .directory
  | location => disk.nodes.get? location

def place (disk : Disk) (location : Location) (node : Node) : Disk :=
  { disk with nodes := disk.nodes.insert location node }

/-- Refuses locations that are not directories. -/
def requireDirectory (disk : Disk) (location : Location) : Except IoError Unit :=
  if disk.node? location = some .directory then .ok ()
  else .error (.system SystemError.notDirectory)

/-- The location of a name in a directory, whether or not a node stands there. -/
def child (here : Location) (name : String) : Except IoError Location :=
  if name = "." then .ok here
  else if name = ".." then .ok here.tail
  else if Path.longestName < name.utf8ByteSize then .error (.system SystemError.nameTooLong)
  else .ok (name :: here)

/-- Follows names that all have to lead to a node; the last of them may be a file. -/
def follow (disk : Disk) (here : Location) : List String → Except IoError Location
  | [] => .ok here
  | name :: rest => do
    disk.requireDirectory here
    let next ← child here name
    if (disk.node? next).isNone then throw (.system SystemError.noEntry)
    disk.follow next rest

def start (disk : Disk) (path : Path) : Location :=
  if path.absolute then [] else disk.home

def read (disk : Disk) (text : String) : Except IoError (List UInt8) := do
  let path ← Path.parse text
  let location ← disk.follow (disk.start path) path.names
  match disk.node? location with
  | some .directory => throw (.system SystemError.isDirectory)
  | some node =>
    if path.closed then throw (.system SystemError.notDirectory)
    match node with
    | .file content => return content
    | _ => return []
  | none => throw (.system SystemError.noEntry)

def fileLocation (disk : Disk) (text : String) : Except IoError Location := do
  let path ← Path.parse text
  let directory ← disk.follow (disk.start path) path.names.dropLast
  disk.requireDirectory directory
  match path.names.getLast? with
  | none => throw (.system SystemError.isDirectory)
  | some name =>
    if path.closed || name = "." || name = ".." then throw (.system SystemError.isDirectory)
    child directory name

/-- Makes the bytes the whole content of the file at a path, which is created if need be. -/
def write (disk : Disk) (text : String) (content : List UInt8) : Except IoError Disk := do
  let location ← disk.fileLocation text
  match disk.node? location with
  | some .directory => throw (.system SystemError.isDirectory)
  | some .full => throw (.system SystemError.noSpace)
  | some .sink => return disk
  | _ => return disk.place location (.file content)

def makeDirectories (disk : Disk) (here : Location) : List String → Except IoError Disk
  | [] => .ok disk
  | name :: rest => do
    disk.requireDirectory here
    let next ← child here name
    let disk := if (disk.node? next).isNone then disk.place next .directory else disk
    disk.makeDirectories next rest

def makeDirectory (disk : Disk) (text : String) : Except IoError Disk := do
  let path ← Path.parse text
  disk.makeDirectories (disk.start path) path.names

/-- A disk with an empty working directory, a sink and a full device. -/
def blank : Disk where
  nodes :=
    (∅ : Table Location Node).insert ["tmp"] .directory
      |>.insert ["work", "tmp"] .directory
      |>.insert ["dev"] .directory
      |>.insert ["null", "dev"] .sink
      |>.insert ["full", "dev"] .full
  home := ["work", "tmp"]

end Disk

end ExpiringCache
