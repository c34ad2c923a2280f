namespace Postroom.Text

/-!
# Decimal numerals

A number is written with the fewest digits and read from an optional plus sign
followed by at least one digit, leading zeros allowed. Readers of ports and
message numbers add an upper limit. The main statement says which texts a
reader accepts.
-/

/-- The number that a row of decimal digits denotes. -/
def digitsValue (digits : List Char) : Nat :=
  Nat.ofDigitChars 10 digits 0

/-- Drop one plus sign in front. -/
def unsigned : List Char → List Char
  | '+' :: digits =>
      digits
  | digits =>
      digits

/-- Read an optional plus sign and at least one digit. -/
def readDecimal? (text : String) : Option Nat :=
  let digits := unsigned text.toList
  if digits ≠ [] ∧ digits.all Char.isDigit = true then
    some (digitsValue digits)
  else
    none

/-- Read a numeral whose value stays below a limit. -/
def readBelow?
    (limit : Nat)
    (text : String) :
    Option Nat :=
  (readDecimal? text).filter (· < limit)

/-- The decimal numeral of a number. -/
def writeDecimal (number : Nat) : String :=
  number.repr

/-- A text is a numeral of a number: digits, with one plus sign in front or none. -/
def IsNumeral
    (text : String)
    (number : Nat) : Prop :=
  ∃ digits : List Char,
    (text.toList = digits ∨ text.toList = '+' :: digits) ∧
      digits ≠ [] ∧
      (∀ character ∈ digits, character.isDigit = true) ∧
      digitsValue digits = number

/-- The characters of a written number are its decimal digits. -/
theorem toList_writeDecimal (number : Nat) :
    (writeDecimal number).toList = Nat.toDigits 10 number := by
  simp [writeDecimal]

/-- A numeral is accepted with the value of its digits. -/
theorem readDecimal?_eq_some_iff
    {text : String}
    {number : Nat} :
    readDecimal? text = some number ↔ IsNumeral text number := by
  have signed :
      ∀ digits : List Char,
        digits ≠ [] →
        (∀ character ∈ digits, character.isDigit = true) →
        (text.toList = digits ∨ text.toList = '+' :: digits) →
        unsigned text.toList = digits := by
    intro digits inhabited allDigits written
    rcases written with written | written
    · rw [written]
      cases digits with
      | nil =>
          exact absurd rfl inhabited
      | cons first rest =>
          have digit := allDigits first (by simp)
          unfold unsigned
          split
          · rename_i shape
            obtain ⟨rfl, _⟩ := List.cons.inj shape
            exact absurd digit (by decide)
          · rfl
    · rw [written]
      rfl
  constructor
  · intro read
    simp only [readDecimal?, Option.ite_none_right_eq_some,
      Option.some.injEq, List.all_eq_true] at read
    obtain ⟨⟨inhabited, allDigits⟩, value⟩ := read
    refine ⟨unsigned text.toList, ?_, inhabited, allDigits, value⟩
    unfold unsigned
    split
    · rename_i shape
      exact Or.inr shape
    · exact Or.inl rfl
  · rintro ⟨digits, written, inhabited, allDigits, value⟩
    have same := signed digits inhabited allDigits written
    simp only [readDecimal?, same, Option.ite_none_right_eq_some,
      Option.some.injEq, List.all_eq_true]
    exact ⟨⟨inhabited, allDigits⟩, value⟩

/-- A numeral is accepted when its value stays below the limit. -/
theorem readBelow?_eq_some_iff
    {limit : Nat}
    {text : String}
    {number : Nat} :
    readBelow? limit text = some number ↔
      IsNumeral text number ∧ number < limit := by
  rw [readBelow?, Option.filter_eq_some_iff, readDecimal?_eq_some_iff,
    decide_eq_true_eq]

/-- What is written for a number is a numeral of it. -/
theorem isNumeral_writeDecimal (number : Nat) :
    IsNumeral (writeDecimal number) number := by
  refine
    ⟨Nat.toDigits 10 number, Or.inl (toList_writeDecimal number), ?_, ?_, ?_⟩
  · exact Nat.toDigits_ne_nil
  · intro character member
    exact Nat.isDigit_of_mem_toDigits (by decide) (by decide) member
  · exact Nat.ofDigitChars_toDigits (by decide) (by decide)

/-- A written number is read back. -/
@[simp] theorem readDecimal?_writeDecimal (number : Nat) :
    readDecimal? (writeDecimal number) = some number :=
  readDecimal?_eq_some_iff.2 (isNumeral_writeDecimal number)

end Postroom.Text
