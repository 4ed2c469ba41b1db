import ExpiringCache.Text.Numeral
import Mathlib.Data.List.Basic
/-!
# The grammar of decimal numerals

Which texts are decimal numerals and of which number, said without reading them. The reader of
64-bit words accepts exactly the numerals of numbers that are small enough, however many zeros lead,
and it reads what is printed.
-/

namespace ExpiringCache.Numeral

/-- An optional plus sign and then one or more decimal digits, which denote the number. -/
def IsDecimal (numeral : List Char) (n : Nat) : Prop :=
  ∃ sign digits, numeral = sign ++ digits ∧ (sign = [] ∨ sign = ['+']) ∧ digits ≠ [] ∧
    (∀ c ∈ digits, '0' ≤ c ∧ c ≤ '9') ∧ Nat.ofDigitChars 10 digits 0 = n

theorem isDigit_iff {c : Char} : c.isDigit ↔ '0' ≤ c ∧ c ≤ '9' := Char.isDigit_iff_toNat

theorem digits?_eq_some_iff {read n : Nat} {numeral : List Char} :
    digits? read numeral = some n ↔
      (∀ c ∈ numeral, '0' ≤ c ∧ c ≤ '9') ∧ Nat.ofDigitChars 10 numeral read = n := by
  induction numeral generalizing read with
  | nil => simp
  | cons c rest ih =>
      rw [List.forall_mem_cons, Nat.ofDigitChars_cons]
      by_cases hdigit : c.isDigit
      · rw [digits?_cons_of_isDigit hdigit, ih, and_assoc, and_iff_right (isDigit_iff.1 hdigit)]
      · rw [digits?, if_neg hdigit]
        refine iff_of_false (Option.some_ne_none n).symm ?_
        exact fun h => hdigit (isDigit_iff.2 h.1.1)

theorem natural?_eq_some_iff {n : Nat} {numeral : List Char} :
    natural? numeral = some n ↔ numeral ≠ [] ∧
      (∀ c ∈ numeral, '0' ≤ c ∧ c ≤ '9') ∧ Nat.ofDigitChars 10 numeral 0 = n := by
  cases numeral with
  | nil => simp
  | cons c rest =>
      rw [natural?, digits?_eq_some_iff]
      exact (and_iff_right (List.cons_ne_nil c rest)).symm

/-- A sign is no digit, so what follows the sign is determined. -/
theorem unsigned_of_digits {digits : List Char} (h : ∀ c ∈ digits, '0' ≤ c ∧ c ≤ '9') :
    unsigned digits = digits := by
  unfold unsigned
  split
  · have hplus := h '+' List.mem_cons_self
    exact absurd hplus (by decide)
  · rfl

theorem natural?_unsigned_eq_some_iff {n : Nat} {numeral : List Char} :
    natural? (unsigned numeral) = some n ↔ IsDecimal numeral n := by
  constructor
  · intro h
    unfold unsigned at h
    split at h
    · exact ⟨['+'], _, rfl, Or.inr rfl, natural?_eq_some_iff.1 h⟩
    · exact ⟨[], numeral, rfl, Or.inl rfl, natural?_eq_some_iff.1 h⟩
  · rintro ⟨sign, digits, rfl, hsign, hnonempty, hdigits, hvalue⟩
    have hunsigned : unsigned (sign ++ digits) = digits := by
      rcases hsign with rfl | rfl
      · exact unsigned_of_digits hdigits
      · exact unsigned_plus digits
    rw [hunsigned]
    exact natural?_eq_some_iff.2 ⟨hnonempty, hdigits, hvalue⟩

/-- **Numerals are read exactly.** A text gives a 64-bit word if it is a numeral of it. -/
theorem word?_eq_some_iff {text : String} {n : UInt64} :
    word? text = some n ↔ IsDecimal text.toList n.toNat := by
  rw [← natural?_unsigned_eq_some_iff, word?, Option.bind_eq_some_iff]
  constructor
  · rintro ⟨found, hfound, hword⟩
    split at hword
    · obtain rfl := Option.some.inj hword
      rw [hfound, UInt64.toNat_ofNatLT]
    · cases hword
  · intro h
    refine ⟨n.toNat, h, ?_⟩
    rw [dif_pos n.toNat_lt_size, UInt64.ofNatLT_toNat]

/-! ### Printing -/

/-- A printed number is a numeral of it, also with a plus sign or zeros before it. -/
theorem isDecimal_printed {sign : List Char} (hsign : sign = [] ∨ sign = ['+']) (zeros n : Nat) :
    IsDecimal (sign ++ (List.replicate zeros '0' ++ (toString n).toList)) n := by
  rw [Nat.toString_eq_repr, Nat.toList_repr]
  refine ⟨sign, _, rfl, hsign, ?_, ?_, ?_⟩
  · exact List.append_ne_nil_of_right_ne_nil _ Nat.toDigits_ne_nil
  · intro c hc
    rcases List.mem_append.1 hc with hzero | hdigit
    · obtain rfl := List.eq_of_mem_replicate hzero
      decide
    · exact isDigit_iff.1 (Nat.isDigit_of_mem_toDigits (by decide) (by decide) hdigit)
  · rw [Nat.ofDigitChars_append, Nat.ofDigitChars_replicate_zero, Nat.mul_zero,
      Nat.ofDigitChars_ten_toDigits]

theorem word?_printed {sign : String} (hsign : sign = "" ∨ sign = "+") (zeros : Nat) (n : UInt64) :
    word? (sign ++ String.ofList (List.replicate zeros '0') ++ toString n) = some n := by
  rw [word?_eq_some_iff, String.toList_append, String.toList_append, String.toList_ofList,
    List.append_assoc]
  refine isDecimal_printed ?_ zeros n.toNat
  rcases hsign with rfl | rfl
  · exact Or.inl rfl
  · exact Or.inr rfl

end ExpiringCache.Numeral
