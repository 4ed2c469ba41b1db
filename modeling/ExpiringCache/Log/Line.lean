import ExpiringCache.Log.Event
import ExpiringCache.Text.Quoted
/-!
# Log lines

An event as a line for a terminal. The characters with which a text could give the terminal commands
are spelled by their code points; line ends and tabs are not among them.
-/

namespace ExpiringCache.Log

/-- A character as it stands in a line. -/
def spelled (c : Char) : String :=
  if c ∈ ['\x07', '\x08', '\x0c', '\x1b', '\x7f'] then
    "\\x" ++ (if c.toNat < 16 then "0" else "") ++ Text.hexDigits c.toNat
  else if 0x80 ≤ c.toNat ∧ c.toNat ≤ 0x9f then
    "\\u\x7b" ++ Text.hexDigits c.toNat ++ "\x7d"
  else c.toString

/-- The words of an event as they stand in a line. -/
def Event.line (event : Event) : String := String.join (event.text.toList.map spelled)

end ExpiringCache.Log
