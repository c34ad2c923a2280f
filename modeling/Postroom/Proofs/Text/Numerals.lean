import Postroom.Text.Decimal

namespace Postroom.Text

/-!
# The numerals of a number

A number has many numerals but one written form. The main statement says how
the others come from it: by zeros in front of its digits, and by a plus sign in
front of these.
-/

namespace IsNumeral

variable
  {text : String}
  {number : Nat}
  (numeral : IsNumeral text number)

include numeral

/-- The characters of a numeral. -/
theorem eq_plus_or_isDigit
    {character : Char}
    (member : character ∈ text.toList) :
    character = '+' ∨ character.isDigit = true := by
  obtain ⟨digits, written, _, allDigits, _⟩ := numeral
  rcases written with unsigned | signed
  · rw [unsigned] at member
    exact Or.inr (allDigits character member)
  · rw [signed] at member
    exact (List.mem_cons.1 member).imp_right (allDigits character)

/-- What is neither a plus sign nor a digit is in no numeral. -/
theorem not_mem
    {character : Char}
    (notPlus : character ≠ '+')
    (notDigit : character.isDigit = false) :
    character ∉ text.toList := by
  intro member
  rcases numeral.eq_plus_or_isDigit member with isPlus | isDigit
  · exact notPlus isPlus
  · rw [notDigit] at isDigit
    cases isDigit

theorem colon_not_mem : ':' ∉ text.toList :=
  numeral.not_mem (by decide) (by decide)

end IsNumeral

/-- A digit stands for a number below ten. -/
theorem exists_digitChar_of_isDigit
    {digit : Char}
    (isDigit : digit.isDigit = true) :
    ∃ value < 10, value.digitChar = digit := by
  obtain ⟨least, most⟩ := Char.isDigit_iff_toNat.1 isDigit
  simp only [Char.reduceToNat] at least most
  have below : digit.toNat - 48 < 10 := by
    omega
  refine ⟨_, below, ?_⟩
  rw [← Char.toNat_inj, Nat.toNat_digitChar_of_lt_ten below]
  omega

/-- Digits behind a written number go on with it, unless it is zero. -/
theorem toDigits_append
    {number : Nat}
    (positive : 0 < number)
    {digits : List Char}
    (allDigits : ∀ digit ∈ digits, digit.isDigit = true) :
    Nat.toDigits 10 number ++ digits =
      Nat.toDigits 10 (Nat.ofDigitChars 10 digits number) := by
  induction digits generalizing number with
  | nil =>
      simp
  | cons first rest inductionHypothesis =>
      obtain ⟨isDigit, restDigits⟩ := List.forall_mem_cons.1 allDigits
      obtain ⟨value, below, rfl⟩ := exists_digitChar_of_isDigit isDigit
      have extended :
          Nat.toDigits 10 number ++ [value.digitChar] =
            Nat.toDigits 10 (10 * number + value) := by
        rw [← Nat.toDigits_of_lt_base below]
        exact Nat.toDigits_append_toDigits (by decide) positive below
      rw [Nat.ofDigitChars_cons_digitChar_of_lt_ten below,
        ← inductionHypothesis (by omega) restDigits, ← extended,
        List.append_assoc, List.singleton_append]

/-- Digits are zeros and what is written for their value. -/
theorem exists_zeros_of_isDigit
    {digits : List Char}
    (inhabited : digits ≠ [])
    (allDigits : ∀ digit ∈ digits, digit.isDigit = true) :
    ∃ zeros,
      (∀ zero ∈ zeros, zero = '0') ∧
        digits = zeros ++ Nat.toDigits 10 (digitsValue digits) := by
  induction digits with
  | nil =>
      exact absurd rfl inhabited
  | cons first rest inductionHypothesis =>
      obtain ⟨isDigit, restDigits⟩ := List.forall_mem_cons.1 allDigits
      obtain ⟨value, below, rfl⟩ := exists_digitChar_of_isDigit isDigit
      have continued :
          digitsValue (value.digitChar :: rest) =
            Nat.ofDigitChars 10 rest value := by
        simp [digitsValue, Nat.ofDigitChars_cons_digitChar_of_lt_ten below]
      -- Zero is written as a zero, so the last digit is not counted in front.
      rcases Decidable.em (rest = []) with rfl | more
      · refine ⟨[], by simp, ?_⟩
        rw [continued, Nat.ofDigitChars_nil, Nat.toDigits_of_lt_base below,
          List.nil_append]
      · rcases Nat.eq_zero_or_pos value with rfl | positive
        · obtain ⟨zeros, onlyZeros, shape⟩ :=
            inductionHypothesis more restDigits
          refine
            ⟨'0' :: zeros, List.forall_mem_cons.2 ⟨rfl, onlyZeros⟩, ?_⟩
          rw [continued, List.cons_append, ← digitsValue, ← shape]
          rfl
        · refine ⟨[], by simp, ?_⟩
          rw [continued, ← toDigits_append positive restDigits,
            Nat.toDigits_of_lt_base below]
          rfl

/-- Zeros in front do not change a value. -/
theorem digitsValue_append_of_zeros
    {zeros : List Char}
    (onlyZeros : ∀ zero ∈ zeros, zero = '0')
    (digits : List Char) :
    digitsValue (zeros ++ digits) = digitsValue digits := by
  rw [List.eq_replicate_of_mem onlyZeros]
  simp [digitsValue, Nat.ofDigitChars_append]

/-- A numeral is what is written for the number, behind zeros and a sign. -/
theorem isNumeral_iff
    {text : String}
    {number : Nat} :
    IsNumeral text number ↔
      ∃ sign zeros : String,
        (sign = "" ∨ sign = "+") ∧
          (∀ zero ∈ zeros.toList, zero = '0') ∧
          text = sign ++ zeros ++ writeDecimal number := by
  constructor
  · rintro ⟨digits, written, inhabited, allDigits, rfl⟩
    obtain ⟨zeros, onlyZeros, shape⟩ :=
      exists_zeros_of_isDigit inhabited allDigits
    have spelled :
        (String.ofList zeros ++ writeDecimal (digitsValue digits)).toList =
          digits := by
      rw [String.toList_append, String.toList_ofList, toList_writeDecimal,
        ← shape]
    rcases written with unsigned | signed
    · refine
        ⟨"", String.ofList zeros, Or.inl rfl, by simpa using onlyZeros, ?_⟩
      rw [String.empty_append, ← String.toList_inj, spelled, unsigned]
    · refine
        ⟨"+", String.ofList zeros, Or.inr rfl, by simpa using onlyZeros, ?_⟩
      rw [String.append_assoc, ← String.toList_inj, String.toList_append,
        spelled, signed]
      rfl
  · rintro ⟨sign, zeros, isSign, onlyZeros, rfl⟩
    refine
      ⟨zeros.toList ++ Nat.toDigits 10 number, ?_, ?_, ?_, ?_⟩
    · rcases isSign with rfl | rfl
      · exact Or.inl (by simp [toList_writeDecimal])
      · exact Or.inr (by simp [toList_writeDecimal])
    · simp [Nat.toDigits_ne_nil]
    · intro character member
      rcases List.mem_append.1 member with zero | digit
      · rw [onlyZeros character zero]
        rfl
      · exact Nat.isDigit_of_mem_toDigits (by decide) (by decide) digit
    · rw [digitsValue_append_of_zeros onlyZeros]
      exact Nat.ofDigitChars_toDigits (by decide) (by decide)

end Postroom.Text
