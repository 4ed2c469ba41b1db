/-!
# Well-formed patterns

A pattern describes texts: groups in parentheses, alternatives, repetitions, sets of characters in
brackets and escapes. `Pattern.WellFormed` says that a text is the text of a pattern. No pattern
names a character class of a whole script, ignores case, looks at word boundaries or refers back to
a group, and counted repetitions are left out with them.

A pattern is first cut into tokens, in which escapes are resolved; one pass over the tokens then
keeps track of open groups and sets.
-/

namespace ExpiringCache.Text.Pattern

inductive Token where
  /-- A character that may have a meaning of its own. -/
  | bare (c : Char)
  | literal (c : Char)
  /-- The beginning or the end of the text. -/
  | anchor
  /-- An escape that means nothing. -/
  | invalid
deriving DecidableEq

/-- The value of a hexadecimal digit. -/
def hexValue? (c : Char) : Option Nat :=
  if c.isDigit then some (c.toNat - '0'.toNat)
  else if 'a' ≤ c ∧ c ≤ 'f' then some (c.toNat - 'a'.toNat + 10)
  else if 'A' ≤ c ∧ c ≤ 'F' then some (c.toNat - 'A'.toNat + 10)
  else none

/-- The character whose code point is written by hexadecimal digits. -/
def codePoint (digits : List Char) : Token :=
  match digits.mapM hexValue? with
  | none => .invalid
  | some values =>
    let n := values.foldl (fun n value => 16 * n + value) 0
    if n.isValidChar then .literal (Char.ofNat n) else .invalid

def escape (c : Char) : Token :=
  if c ∈ ['A', 'z'] then .anchor
  else if c = 'a' then .literal '\x07'
  else if c = 'f' then .literal '\x0c'
  else if c = 't' then .literal '\t'
  else if c = 'n' then .literal '\n'
  else if c = 'r' then .literal '\r'
  else if c = 'v' then .literal '\x0b'
  else if c.toNat < 0x80 ∧ ¬c.isAlphanum ∧ c ∉ ['<', '>'] then .literal c
  else .invalid

def tokens : List Char → List Token
  | [] => []
  | '\\' :: 'x' :: a :: b :: rest => codePoint [a, b] :: tokens rest
  | '\\' :: 'u' :: a :: b :: c :: d :: rest => codePoint [a, b, c, d] :: tokens rest
  | '\\' :: 'U' :: a :: b :: c :: d :: e :: f :: g :: h :: rest =>
    codePoint [a, b, c, d, e, f, g, h] :: tokens rest
  | '\\' :: c :: rest => escape c :: tokens rest
  | ['\\'] => [.invalid]
  | c :: rest => .bare c :: tokens rest

/-- How far into a set the last token led. -/
inductive Edge where
  /-- To its bracket: a caret, hyphens and a closing bracket are special here. -/
  | opened
  /-- To the caret after its bracket. -/
  | negated
  /-- To hyphens at its beginning. -/
  | hyphens
  | inner
deriving DecidableEq

/-- Where the last token led. -/
inductive Mode where
  /-- Out of every set; tells whether there is something to repeat. -/
  | outside (item : Bool)
  /-- Into a set, within so many others. -/
  | inside (nesting : Nat) (edge : Edge)
  /-- Into the name of a group; tells whether the name has begun. -/
  | name (begun : Bool)
  /-- Into the flags of a group: those seen, and whether one has to follow a minus sign. -/
  | flags (seen : List Char) (dangling : Bool)

/-- The ends of a range of characters are in order. -/
def inOrder : Token → Token → Bool
  | .bare a, .bare b | .bare a, .literal b | .literal a, .bare b | .literal a, .literal b => a ≤ b
  | _, _ => false

/-- The tokens complete a pattern in which so many groups are open. -/
def completes (groups : Nat) : Mode → List Token → Bool
  | .outside _, [] => groups = 0
  | _, [] => false
  | .outside _, .bare '(' :: .bare '?' :: .bare 'P' :: .bare '<' :: rest
  | .outside _, .bare '(' :: .bare '?' :: .bare '<' :: rest => completes groups (.name false) rest
  | .outside _, .bare '(' :: .bare '?' :: rest => completes groups (.flags [] false) rest
  | .outside _, .bare '(' :: rest => completes (groups + 1) (.outside false) rest
  | .outside _, .bare ')' :: rest => 0 < groups && completes (groups - 1) (.outside true) rest
  | .outside _, .bare '|' :: rest => completes groups (.outside false) rest
  | .outside _, .bare '[' :: rest => completes groups (.inside 0 .opened) rest
  | .outside item, .bare c :: rest =>
    if c = '{' then false
    else if c ∈ ['*', '+', '?'] then item && completes groups (.outside true) rest
    else completes groups (.outside true) rest
  | .outside _, token :: rest => token ≠ .invalid && completes groups (.outside true) rest
  | .name begun, .bare c :: rest =>
    if c = '>' then begun && completes (groups + 1) (.outside false) rest
    else if c = '_' || c.isAlpha || (begun && (c.isDigit || c ∈ ['.', '[', ']'])) then
      completes groups (.name true) rest
    else false
  | .flags seen dangling, .bare c :: rest =>
    if c = ':' then !dangling && completes (groups + 1) (.outside false) rest
    else if c = ')' then
      !dangling && !seen.isEmpty && completes groups (.outside false) rest
    else if c ∈ seen then false
    else if c = '-' then completes groups (.flags (c :: seen) true) rest
    else if c ∈ ['m', 's', 'U', 'u', 'R', 'x'] || (c = 'i' && '-' ∈ seen) then
      completes groups (.flags (c :: seen) false) rest
    else false
  | .inside nesting .opened, .bare '^' :: rest => completes groups (.inside nesting .negated) rest
  | .inside nesting .opened, .bare '-' :: rest
  | .inside nesting .negated, .bare '-' :: rest
  | .inside nesting .hyphens, .bare '-' :: rest => completes groups (.inside nesting .hyphens) rest
  | .inside nesting .opened, .bare ']' :: rest
  | .inside nesting .negated, .bare ']' :: rest => completes groups (.inside nesting .inner) rest
  | .inside nesting _, .bare '[' :: rest => completes groups (.inside (nesting + 1) .opened) rest
  | .inside 0 _, .bare ']' :: rest => completes groups (.outside true) rest
  | .inside (nesting + 1) _, .bare ']' :: rest => completes groups (.inside nesting .inner) rest
  | .inside nesting _, .bare '&' :: .bare '&' :: rest
  | .inside nesting _, .bare '-' :: .bare '-' :: rest
  | .inside nesting _, .bare '~' :: .bare '~' :: rest =>
    completes groups (.inside nesting .inner) rest
  | .inside nesting _, first :: .bare '-' :: .bare ']' :: rest =>
    first ≠ .anchor && first ≠ .invalid &&
      completes groups (.inside nesting .inner) (.bare '-' :: .bare ']' :: rest)
  | .inside nesting _, first :: .bare '-' :: .bare '-' :: rest =>
    first ≠ .anchor && first ≠ .invalid &&
      completes groups (.inside nesting .inner) (.bare '-' :: .bare '-' :: rest)
  | .inside nesting _, first :: .bare '-' :: last :: rest =>
    inOrder first last && completes groups (.inside nesting .inner) rest
  | .inside nesting _, token :: rest =>
    token ≠ .anchor && token ≠ .invalid && completes groups (.inside nesting .inner) rest
  | _, _ :: _ => false

/-- The text is the text of a pattern. -/
def WellFormed (text : String) : Prop :=
  completes 0 (.outside false) (tokens text.toList) = true

instance (text : String) : Decidable (WellFormed text) :=
  inferInstanceAs (Decidable (completes 0 (.outside false) (tokens text.toList) = true))

end ExpiringCache.Text.Pattern
