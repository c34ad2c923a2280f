import Postroom.Proofs.Text.Numerals
import Postroom.Proofs.Wire.Framing
import Postroom.Text.Blank

namespace Postroom.Text

/-!
# Visible text

Addresses, host texts and numerals are made of the visible characters of ASCII:
no blank, no control character, one byte each. So visible text has nothing to
trim and is one piece wherever blanks separate pieces. A text of ASCII can be
cut off behind any byte without breaking a character.
-/

/-- A text of visible ASCII characters only. -/
def IsVisible (text : String) : Prop :=
  ∀ character ∈ text.toList,
    0x20 < character.toNat ∧ character.toNat < 0x7F

instance (text : String) : Decidable (IsVisible text) :=
  List.decidableBAll _ _

@[simp] theorem isVisible_append {left right : String} :
    IsVisible (left ++ right) ↔ IsVisible left ∧ IsVisible right := by
  simp only [IsVisible, String.toList_append, List.forall_mem_append]

theorem isVisible_intercalate
    {separator : String}
    (between : IsVisible separator)
    {texts : List String}
    (each : ∀ text ∈ texts, IsVisible text) :
    IsVisible (String.intercalate separator texts) :=
  Wire.forall_mem_intercalate between each

/-- A digit of any base is visible. -/
theorem isVisible_digitChar (value : Nat) :
    0x20 < value.digitChar.toNat ∧ value.digitChar.toNat < 0x7F := by
  by_cases small : value < 16
  · exact
      (by decide :
        ∀ digit < 16,
          0x20 < digit.digitChar.toNat ∧ digit.digitChar.toNat < 0x7F)
        value small
  · have star : value.digitChar = '*' := by
      unfold Nat.digitChar
      repeat rw [if_neg (by omega)]
    rw [star]
    decide

/-- A numeral of any base is visible. -/
theorem isVisible_toDigits
    {base : Nat}
    (large : 1 < base)
    (number : Nat) :
    IsVisible (String.ofList (Nat.toDigits base number)) := by
  simp only [IsVisible, String.toList_ofList]
  induction number using Nat.strongRecOn with
  | ind number inductionHypothesis =>
      rw [Nat.toDigits_eq_if large]
      split
      · simpa using isVisible_digitChar number
      · rename_i notLess
        have smaller : number / base < number :=
          Nat.div_lt_self (by omega) large
        rw [List.forall_mem_append, List.forall_mem_singleton]
        exact
          ⟨inductionHypothesis _ smaller, isVisible_digitChar _⟩

theorem isVisible_writeDecimal (number : Nat) :
    IsVisible (writeDecimal number) := by
  have digits := isVisible_toDigits (by decide : 1 < 10) number
  rwa [← toList_writeDecimal, String.ofList_toList] at digits

/-- A decimal numeral is made of digits. -/
theorem colon_not_mem_writeDecimal (number : Nat) :
    ':' ∉ (writeDecimal number).toList :=
  (isNumeral_writeDecimal number).colon_not_mem

theorem writeDecimal_ne_empty (number : Nat) :
    writeDecimal number ≠ "" := by
  rw [ne_eq, ← String.toList_eq_nil_iff, toList_writeDecimal]
  exact Nat.toDigits_ne_nil

namespace IsVisible

variable {text : String} (visible : IsVisible text)

include visible

theorem isBlank_eq_false
    {character : Char}
    (member : character ∈ text.toList) :
    isBlank character = false := by
  have range := visible character member
  simp only [isBlank, Bool.or_eq_false_iff, Bool.and_eq_false_iff,
    decide_eq_false_iff_not, beq_eq_false_iff_ne]
  omega

theorem isOneLine : Wire.IsOneLine text := by
  rw [Wire.isOneLine_iff]
  intro character member
  have range := visible character member
  constructor
  · rintro rfl
    exact absurd range (by decide)
  · rintro rfl
    exact absurd range (by decide)

/-- A start of a visible text is visible. -/
theorem take (count : Nat) :
    IsVisible (String.ofList (text.toList.take count)) := by
  intro character member
  rw [String.toList_ofList] at member
  exact visible character (List.mem_of_mem_take member)

end IsVisible

/-- Some first bytes of a text of short characters are read as that many characters. -/
theorem decode_take_encode
    {text : String}
    (short : ∀ character ∈ text.toList, character.toNat < 0x80)
    (count : Nat) :
    decode ((encode text).take count) =
      String.ofList (text.toList.take count) := by
  have bytes
      {characters : List Char}
      (short : ∀ character ∈ characters, character.toNat < 0x80) :
      encodeCharacters characters =
        characters.map fun character => UInt8.ofNat character.toNat := by
    induction characters with
    | nil =>
        rfl
    | cons first rest inductionHypothesis =>
        obtain ⟨shortFirst, shortRest⟩ := List.forall_mem_cons.1 short
        rw [encodeCharacters, List.flatMap_cons,
          utf8EncodeChar_short shortFirst, ← encodeCharacters,
          inductionHypothesis shortRest]
        rfl
  have cut :
      (encode text).take count =
        encode (String.ofList (text.toList.take count)) := by
    rw [encode, encode, String.toList_ofList, bytes short,
      bytes fun character member =>
        short character (List.mem_of_mem_take member),
      List.map_take]
  rw [cut, decode_encode]

end Postroom.Text
