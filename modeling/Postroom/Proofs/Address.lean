import Postroom.Address
import Postroom.Proofs.Text.Pieces
import Postroom.Proofs.Text.Visible

namespace Postroom.Address

/-!
# Written addresses

An address is written as two words of letters, digits and marks around the only
at sign. These are printing characters of ASCII without the comma, so the text
of an address needs no trimming, breaks no line and stays whole in a list that
is cut at commas.
-/

/-- The letters and digits of ASCII, and four marks. -/
def IsSign (character : Char) : Prop :=
  ('A' ≤ character ∧ character ≤ 'Z') ∨
    ('a' ≤ character ∧ character ≤ 'z') ∨
    ('0' ≤ character ∧ character ≤ '9') ∨
    character ∈ ['.', '_', '-', '+']

/-- A text that can stand on either side of the at sign. -/
structure IsWord (text : String) : Prop where
  inhabited : text ≠ ""
  signs : ∀ character ∈ text.toList, IsSign character

/-- A text spells an address: two words around the only at sign. -/
structure Spells
    (text : String)
    (address : Address) : Prop where
  shape : text = address.localPart ++ "@" ++ address.domain
  once : text.toList.count '@' = 1
  localPart : IsWord address.localPart
  domain : IsWord address.domain

theorem isAddressCharacter_iff {character : Char} :
    isAddressCharacter character = true ↔ IsSign character := by
  have alpha :
      character.isAlpha = true ↔
        character.isUpper = true ∨ character.isLower = true :=
    Bool.or_eq_true_iff
  have upper :
      character.isUpper = true ↔ 'A' ≤ character ∧ character ≤ 'Z' :=
    decide_eq_true_iff
  have lower :
      character.isLower = true ↔
        decide ('a' ≤ character) = true ∧ decide (character ≤ 'z') = true :=
    Bool.and_eq_true_iff
  have digit :
      character.isDigit = true ↔
        decide ('0' ≤ character) = true ∧ decide (character ≤ '9') = true :=
    Bool.and_eq_true_iff
  simp only [isAddressCharacter, Char.isAlphanum, IsSign, Bool.or_eq_true,
    alpha, upper, lower, digit, decide_eq_true_eq, beq_iff_eq,
    List.mem_cons, List.not_mem_nil, or_false, or_assoc]

theorem isHalf_iff {text : String} :
    isHalf text = true ↔ IsWord text := by
  simp only [isHalf, Bool.and_eq_true, Bool.not_eq_true',
    List.isEmpty_eq_false_iff, List.all_eq_true, isAddressCharacter_iff,
    ne_eq, String.toList_eq_nil_iff]
  exact ⟨fun both => ⟨both.1, both.2⟩, fun word => ⟨word.1, word.2⟩⟩

/-- A text denotes exactly the address that it spells. -/
theorem ofText_eq_ok_iff_spells
    {text : String}
    {address : Address} :
    ofText text = .ok address ↔ Spells text address := by
  rw [ofText_eq_ok_iff, ofText?_eq_some_iff]
  constructor
  · rintro ⟨rfl, localPart, domain⟩
    have once : address.text.toList.count '@' = 1 := by
      have inLocalPart := List.count_eq_zero.2 (at_not_mem_of_isHalf localPart)
      have inDomain := List.count_eq_zero.2 (at_not_mem_of_isHalf domain)
      simp [Address.text, inLocalPart, inDomain]
    exact ⟨rfl, once, isHalf_iff.1 localPart, isHalf_iff.1 domain⟩
  · intro spells
    exact
      ⟨spells.shape, isHalf_iff.2 spells.localPart,
        isHalf_iff.2 spells.domain⟩

/-- An address that is read back from its own text. -/
def IsValid (address : Address) : Prop :=
  ofText? address.text = some address

instance (address : Address) : Decidable address.IsValid :=
  inferInstanceAs (Decidable (_ = _))

theorem isValid_iff {address : Address} :
    address.IsValid ↔
      isHalf address.localPart = true ∧ isHalf address.domain = true := by
  rw [IsValid, ofText?_eq_some_iff]
  exact ⟨And.right, fun halves => ⟨rfl, halves⟩⟩

/-- An address is read back when both its halves are words. -/
theorem isValid_of_isWord
    {address : Address}
    (localPart : IsWord address.localPart)
    (domain : IsWord address.domain) :
    address.IsValid :=
  isValid_iff.2 ⟨isHalf_iff.2 localPart, isHalf_iff.2 domain⟩

/-- The characters of addresses lie between the plus sign and the letter `z`. -/
theorem range_of_isAddressCharacter
    {character : Char}
    (allowed : isAddressCharacter character = true) :
    0x2B ≤ character.toNat ∧ character.toNat ≤ 0x7A ∧
      character.toNat ≠ 0x2C := by
  have sign := isAddressCharacter_iff.1 allowed
  simp only [IsSign, Char.le_def, UInt32.le_iff_toNat_le, List.mem_cons,
    List.not_mem_nil, or_false, ← Char.toNat_inj, Char.reduceToNat,
    Char.reduceVal, UInt32.reduceToNat] at sign
  change 0x2B ≤ character.val.toNat ∧ character.val.toNat ≤ 0x7A ∧
    character.val.toNat ≠ 0x2C
  have same : character.toNat = character.val.toNat :=
    rfl
  omega

namespace IsValid

variable {address : Address} (valid : address.IsValid)

include valid

/-- The characters of a written address, the at sign included. -/
theorem range_of_mem_text
    {character : Char}
    (member : character ∈ address.text.toList) :
    0x2B ≤ character.toNat ∧ character.toNat ≤ 0x7A ∧
      character.toNat ≠ 0x2C := by
  obtain ⟨localPart, domain⟩ := isValid_iff.1 valid
  simp only [isHalf, Bool.and_eq_true, List.all_eq_true]
    at localPart domain
  simp only [text, String.toList_append, List.mem_append] at member
  rcases member with (inLocalPart | isAt) | inDomain
  · exact range_of_isAddressCharacter (localPart.2 _ inLocalPart)
  · have same : character = '@' := by
      simpa using isAt
    subst same
    decide
  · exact range_of_isAddressCharacter (domain.2 _ inDomain)

theorem comma_not_mem_text :
    ',' ∉ address.text.toList := by
  intro member
  exact absurd (valid.range_of_mem_text member) (by decide)

theorem isVisible_text :
    Text.IsVisible address.text := by
  intro character member
  have range := valid.range_of_mem_text member
  omega

theorem isOneLine_text :
    Wire.IsOneLine address.text :=
  valid.isVisible_text.isOneLine

theorem isOneLine_localPart :
    Wire.IsOneLine address.localPart := by
  have whole := valid.isOneLine_text
  simp only [text, Wire.isOneLine_append] at whole
  exact whole.1.1

theorem isOneLine_domain :
    Wire.IsOneLine address.domain := by
  have whole := valid.isOneLine_text
  simp only [text, Wire.isOneLine_append] at whole
  exact whole.2

theorem localPart_ne_empty :
    address.localPart ≠ "" := by
  have half := (isValid_iff.1 valid).1
  rintro empty
  rw [empty] at half
  exact absurd half (by decide)

theorem space_not_mem_localPart :
    ' ' ∉ address.localPart.toList := by
  intro member
  have inText : ' ' ∈ address.text.toList := by
    simp [text, member]
  exact absurd (valid.range_of_mem_text inText) (by decide)

/-- A written address has nothing to trim. -/
theorem trim_text :
    Text.trim address.text = address.text :=
  Text.trim_of_none fun _ => valid.isVisible_text.isBlank_eq_false

end IsValid

/-- Written addresses are read back one by one. -/
theorem mapM_ofText?_text
    {addresses : List Address}
    (valid : ∀ address ∈ addresses, address.IsValid) :
    (addresses.map text).mapM ofText? = some addresses := by
  induction addresses with
  | nil =>
      rfl
  | cons first rest inductionHypothesis =>
      obtain ⟨validFirst, validRest⟩ := List.forall_mem_cons.1 valid
      have readFirst : ofText? first.text = some first :=
        validFirst
      simp [readFirst, inductionHypothesis validRest]

end Postroom.Address
