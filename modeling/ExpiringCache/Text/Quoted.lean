import ExpiringCache.Text.Unprintable
/-!
# Quoted text

A text between double quotes. Quotes, backslashes, tabs, line ends and the null character have
two-character escapes; every other unprintable character is written by its code point in
hexadecimal, as in `\u{301}`. Single quotes need no escape.
-/

namespace ExpiringCache.Text

/-- The digits of a number in base sixteen, in lower case and without leading zeros. -/
def hexDigits (n : Nat) : String := String.ofList (Nat.toDigits 16 n)

/-- One character as it stands inside double quotes. -/
def quotedChar (c : Char) : String :=
  match c with
  | '\x00' => "\\0"
  | '\t' => "\\t"
  | '\r' => "\\r"
  | '\n' => "\\n"
  | '\\' => "\\\\"
  | '"' => "\\\""
  | c => if Unprintable c then "\\u\x7b" ++ hexDigits c.toNat ++ "\x7d" else c.toString

def quoted (text : String) : String :=
  "\"" ++ String.join (text.toList.map quotedChar) ++ "\""

end ExpiringCache.Text
