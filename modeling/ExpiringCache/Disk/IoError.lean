import ExpiringCache.Disk.SystemError
/-!
# Input and output errors

Why reading or writing failed: a system call returned a code, or the fault is of a general kind,
with or without words of its own.
-/

namespace ExpiringCache

/-- The general kinds of input and output faults. -/
inductive IoFault where
  | notFound
  | permissionDenied
  | alreadyExists
  | invalidInput
  | invalidData
  | unexpectedEnd
  | writeZero
  | interrupted
  | timedOut
  | other
deriving DecidableEq

def IoFault.text : IoFault → String
  | notFound => "entity not found"
  | permissionDenied => "permission denied"
  | alreadyExists => "entity already exists"
  | invalidInput => "invalid input parameter"
  | invalidData => "invalid data"
  | unexpectedEnd => "unexpected end of file"
  | writeZero => "write zero"
  | interrupted => "operation interrupted"
  | timedOut => "timed out"
  | other => "other error"

inductive IoError where
  /-- A system call failed with a code. -/
  | system (code : Int)
  /-- A fault without words of its own. -/
  | plain (fault : IoFault)
  /-- A fault described in its own words. -/
  | described (fault : IoFault) (words : String)
deriving DecidableEq

namespace IoError

def text : IoError → String
  | system code => s!"{SystemError.text code} (os error {code})"
  | plain fault => fault.text
  | described _ words => words

/-- A path with a null character in it, which no system call takes. -/
def nullInPath : IoError :=
  described .invalidInput "file name contained an unexpected NUL byte"

end IoError

end ExpiringCache
