/-!
# Decimal numerals

`word?` reads the decimal numeral of a 64-bit word: an optional plus sign, then one or more digits,
with any number of leading zeros, for a number below `2 ^ 64`. No blanks, no minus sign, no
separators.

`real` recognises the numerals of real numbers: an optional sign, then digits with at most one point
among or around them and an optional exponent, or a name of infinity or of no number.
-/

namespace ExpiringCache.Numeral

/-- The number written by decimal digits after a number already read. -/
def digits? (read : Nat) : List Char → Option Nat
  | [] => some read
  | c :: rest => if c.isDigit then digits? (10 * read + (c.toNat - '0'.toNat)) rest else none

/-- The number written by a nonempty list of decimal digits. -/
def natural? : List Char → Option Nat
  | [] => none
  | c :: rest => digits? 0 (c :: rest)

def unsigned : List Char → List Char
  | '+' :: rest => rest
  | numeral => numeral

/-- The 64-bit word that a numeral denotes. -/
def word? (text : String) : Option UInt64 :=
  (natural? (unsigned text.toList)).bind fun n =>
    if h : n < UInt64.size then some (UInt64.ofNatLT n h) else none

/-- Whether an exponent follows, or nothing. -/
def exponent : List Char → Bool
  | [] => true
  | 'e' :: rest | 'E' :: rest =>
    let digits := match rest with
      | '+' :: digits | '-' :: digits => digits
      | digits => digits
    !digits.isEmpty && digits.all Char.isDigit
  | _ => false

/-- Whether an unsigned real number is written. -/
def unsignedReal (numeral : List Char) : Bool :=
  let rest := numeral.dropWhile Char.isDigit
  let fraction := match rest with
    | '.' :: fraction => fraction
    | _ => []
  let digits := numeral.takeWhile Char.isDigit ++ fraction.takeWhile Char.isDigit
  let rest := match rest with
    | '.' :: fraction => fraction.dropWhile Char.isDigit
    | rest => rest
  String.ofList (numeral.map Char.toLower) ∈ ["inf", "infinity", "nan"] ||
    (!digits.isEmpty && exponent rest)

/-- Whether a real number is written. -/
def real (text : String) : Bool :=
  match text.toList with
  | '+' :: rest | '-' :: rest => unsignedReal rest
  | numeral => unsignedReal numeral

@[simp]
theorem digits?_nil (read : Nat) : digits? read [] = some read := rfl

theorem digits?_cons_of_isDigit {c : Char} (h : c.isDigit) (read : Nat) (rest : List Char) :
    digits? read (c :: rest) = digits? (10 * read + (c.toNat - '0'.toNat)) rest := by
  simp [digits?, h]

@[simp]
theorem natural?_nil : natural? [] = none := rfl

@[simp]
theorem unsigned_plus (rest : List Char) : unsigned ('+' :: rest) = rest := rfl

example : word? "+007" = some 7 := by decide +kernel

example : word? "18446744073709551616" = none := by decide +kernel

end ExpiringCache.Numeral
