import ExpiringCache.Log.Filter
import ExpiringCache.Text.Alphanumeric
import ExpiringCache.Text.Blank
import ExpiringCache.Text.Pattern
/-!
# Filters in writing

Rules are separated by commas. A rule is a threshold for all parts (`info`), a text that the names
of parts start with (`name`), or such a text with a threshold (`name=info`); without a threshold it
shows everything. A scope in brackets may follow the text or stand in its place: `[span]` or
`[span{field=value}]`. As no event of the service belongs to a span, or carries a field with a value
of its own, only scopes with nothing but the name of a field leave a rule.

The shape of a rule is found without the blanks at its ends. Its pieces are then cut out at the same
distances from the beginning of the rule as it was given, so that after blanks at the front every
piece begins and ends too early. A piece that would begin or end within a character cannot be cut.
-/

namespace ExpiringCache.Log.Filter

/-- Why a filter cannot be read. -/
inductive Fault where
  | malformed
  /-- A piece begins or ends within a character. -/
  | splitCharacter
deriving DecidableEq

/-- A threshold by its name, in any case, or by its number. The inner `none` shows nothing. -/
def threshold? (text : String) : Option (Option Level) :=
  match text.map Char.toLower with
  | "error" => some (some .error)
  | "warn" => some (some .warn)
  | "info" => some (some .info)
  | "debug" => some (some .debug)
  | "trace" => some (some .trace)
  | "off" => some none
  | _ =>
    match Numeral.word? text with
    | some 0 => some none
    | some 1 => some (some .error)
    | some 2 => some (some .warn)
    | some 3 => some (some .info)
    | some 4 => some (some .debug)
    | some 5 => some (some .trace)
    | _ => none

/-- The piece of a text from one distance in bytes to another. -/
def piece (text : String) (start stop : Nat) : Except Fault String :=
  let bytes := Utf8.encode text
  match Utf8.decode (bytes.take start), Utf8.decode ((bytes.take stop).drop start) with
  | .ok _, .ok piece => .ok piece
  | _, _ => .error .splitCharacter

def width (chars : List Char) : Nat :=
  chars.foldl (fun bytes c => bytes + c.utf8Size) 0

/-- The threshold that begins at a distance; the empty one shows everything. -/
def thresholdAt (text : String) (start : Nat) : Except Fault (Option Level) := do
  let level ← piece text start text.utf8ByteSize
  if level = "" then return some .trace
  match threshold? level with
  | some threshold? => return threshold?
  | none => throw .malformed

/-- The threshold after a scope that ends at a distance, given what follows the scope. -/
def thresholdAfter (text : String) (stop : Nat) : List Char → Except Fault (Option Level)
  | [] => .ok (some .trace)
  | '=' :: _ => thresholdAt text (stop + 1)
  | _ => .error .malformed

/-- The name of a field, unless the field has a value. A value is a number or a pattern. -/
def fieldName? (field : String) : Except Fault (Option String) :=
  match field.splitOn "=" with
  | _ :: value :: _ =>
    if Numeral.real value ∨ Text.Pattern.WellFormed value then .ok none else .error .malformed
  | _ => if field = "" then .error .malformed else .ok (some field)

/-- The rule with a field, from the field on. -/
def fieldRule? (text : String) (part? : Option String) (span : String) (start : Nat)
    (rest : List Char) : Except Fault (Option Rule) := do
  let stop := start + width (rest.takeWhile (· ≠ '}'))
  match rest.dropWhile (· ≠ '}') with
  | [] => throw .malformed
  | _ :: rest =>
    let field? ← fieldName? (← piece text start stop)
    match rest with
    | ']' :: rest =>
      let threshold? ← thresholdAfter text (stop + 2) rest
      match span, field? with
      | "", some field => return some { part?, field? := some field, threshold? }
      | _, _ => return none
    | _ => throw .malformed

/-- The rule with a scope, from the scope on. -/
def scopeRule? (text : String) (part? : Option String) (start : Nat) (rest : List Char) :
    Except Fault (Option Rule) := do
  let stop := start + width (rest.takeWhile fun c => c ≠ ']' && c ≠ '\x7b')
  match rest.dropWhile fun c => c ≠ ']' && c ≠ '\x7b' with
  | [] => throw .malformed
  | c :: rest =>
    let span ← piece text start stop
    if c = ']' then
      let _ ← thresholdAfter text (stop + 1) rest
      return none
    fieldRule? text part? span (stop + 1) rest

/-- A rule in writing. A scope that no event is in leaves none. -/
def rule? (text : String) : Except Fault (Option Rule) := do
  match Text.trimmed text.toList with
  | [] => throw .malformed
  | '[' :: rest => scopeRule? text none 1 rest
  | c :: rest =>
    if ¬(Text.Alphanumeric c ∨ c ∈ ['-', ':', '_']) then throw .malformed
    let stop := width ((c :: rest).takeWhile fun c => c ≠ '=' && c ≠ '[')
    match (c :: rest).dropWhile fun c => c ≠ '=' && c ≠ '[' with
    | [] =>
      match threshold? text with
      | some threshold? => return some { threshold? }
      | none => return some { part? := some text, threshold? := some .trace }
    | '=' :: _ =>
      let part ← piece text 0 stop
      return some { part? := some part, threshold? := ← thresholdAt text (stop + 1) }
    | _ :: rest =>
      let part ← piece text 0 stop
      scopeRule? text (some part) (stop + 1) rest

/-- A filter in writing. A comma that no rule stands before or after is ignored. -/
def parse (text : String) : Except Fault Filter := do
  let rules ← ((text.splitOn ",").filter (· ≠ "")).mapM rule?
  return rules.filterMap id

/-- The filter that an environment asks for. A malformed one is replaced by the standard one. -/
def ofEnvironment (environment : Environment) : Except Fault Filter :=
  match environment.text? "RUST_LOG" with
  | none => .ok standard
  | some text =>
    match parse text with
    | .error .malformed => .ok standard
    | read => read

end ExpiringCache.Log.Filter
