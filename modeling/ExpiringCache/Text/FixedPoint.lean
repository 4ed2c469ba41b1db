/-!
# Two decimal places

`FixedPoint.hundredths` writes a nonnegative binary fraction with two decimal places. The value is
taken exactly, `mantissa * 2 ^ exponent`, and rounded to the nearest hundredth; a half goes to the
even neighbour.
-/

namespace ExpiringCache.FixedPoint

/-- The quotient rounded to the nearest integer, a half to the even one. -/
def roundDiv (num den : Nat) : Nat :=
  let quotient := num / den
  let rest := num % den
  if den < 2 * rest ∨ (2 * rest = den ∧ quotient % 2 = 1) then quotient + 1 else quotient

/-- The number of fractions that the lowest 52 bits of a double can hold. -/
def fractions : Nat := 1 <<< 52

/-- The number that the 11 bits above the fraction hold. -/
def rawExponent (x : Float) : Nat := x.toBits.toNat / fractions % 2048

/-- The mantissa of a finite nonnegative double, an integer. -/
def mantissa (x : Float) : Nat :=
  let fraction := x.toBits.toNat % fractions
  if rawExponent x = 0 then fraction else fraction + fractions

/-- The exponent that goes with the mantissa. -/
def exponent (x : Float) : Int :=
  max 1 (rawExponent x) - 1075

def inHundredths (x : Float) : Nat :=
  if 0 ≤ exponent x then 100 * mantissa x <<< (exponent x).toNat
  else roundDiv (100 * mantissa x) (1 <<< (-exponent x).toNat)

/-- A nonnegative double with two decimal places. -/
def hundredths (x : Float) : String :=
  let n := inHundredths x
  toString (n / 100) ++ "." ++ toString (n / 10 % 10) ++ toString (n % 10)

theorem roundDiv_mul_le (num den : Nat) :
    2 * (roundDiv num den * den) ≤ 2 * num + den := by
  have hdiv := Nat.div_add_mod num den
  have hmul : (num / den + 1) * den = den * (num / den) + den := by
    rw [Nat.add_mul, Nat.mul_comm, Nat.one_mul]
  have hmul' : num / den * den = den * (num / den) := Nat.mul_comm _ _
  simp only [roundDiv]
  split <;> omega

theorem le_roundDiv_mul (num : Nat) {den : Nat} (h : 0 < den) :
    2 * num ≤ 2 * (roundDiv num den * den) + den := by
  have hdiv := Nat.div_add_mod num den
  have hmod := Nat.mod_lt num h
  have hmul : (num / den + 1) * den = den * (num / den) + den := by
    rw [Nat.add_mul, Nat.mul_comm, Nat.one_mul]
  have hmul' : num / den * den = den * (num / den) := Nat.mul_comm _ _
  simp only [roundDiv]
  split <;> omega

end ExpiringCache.FixedPoint
