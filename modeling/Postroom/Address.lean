import Postroom.Text.Letters
import Postroom.Text.Split

namespace Postroom

/-!
# Mail addresses

An address is a local part and a domain. Read from text, the two halves stand
around an at sign and are made of ASCII letters, digits and four marks. The
main statement says exactly which texts are addresses, and that an address
which was read is written as it stood.
-/

/-- A local part at a domain. -/
structure Address where
  localPart : String
  domain : String
  deriving Repr, DecidableEq

/-- A text that is no address. -/
structure InvalidAddress where
  text : String
  deriving Repr, DecidableEq

/-- The wording of the error. -/
def InvalidAddress.message (error : InvalidAddress) : String :=
  "invalid email pattern " ++ error.text

namespace Address

/-- The characters that both halves of an address are made of. -/
def isAddressCharacter (character : Char) : Bool :=
  character.isAlphanum ||
    character == '.' ||
    character == '_' ||
    character == '-' ||
    character == '+'

/-- Whether a text can be one half of an address. -/
def isHalf (text : String) : Bool :=
  !text.toList.isEmpty && text.toList.all isAddressCharacter

/-- The address that a text denotes. -/
def ofText? (text : String) : Option Address :=
  match Text.cutFirst? '@' text with
  | none =>
      none
  | some (localPart, domain) =>
      if isHalf localPart && isHalf domain then
        some ⟨localPart, domain⟩
      else
        none

/-- The address that a text denotes, or the error that quotes the text. -/
def ofText (text : String) : Except InvalidAddress Address :=
  match ofText? text with
  | none =>
      .error ⟨text⟩
  | some address =>
      .ok address

/-- The written form of an address. -/
def text (address : Address) : String :=
  address.localPart ++ "@" ++ address.domain

/-- Whether an address belongs to a domain, the case of ASCII letters ignored. -/
def isIn
    (address : Address)
    (domain : String) :
    Bool :=
  Text.sameLetters address.domain domain

/-- No half of an address has an at sign. -/
theorem at_not_mem_of_isHalf
    {half : String}
    (valid : isHalf half = true) :
    '@' ∉ half.toList := by
  intro member
  simp only [isHalf, Bool.and_eq_true, List.all_eq_true] at valid
  have allowed := valid.2 '@' member
  exact absurd allowed (by decide)

/-- A text is an address exactly when it writes two valid halves. -/
theorem ofText?_eq_some_iff
    {text : String}
    {address : Address} :
    ofText? text = some address ↔
      text = address.text ∧
        isHalf address.localPart = true ∧
        isHalf address.domain = true := by
  obtain ⟨localPart, domain⟩ := address
  constructor
  · intro read
    simp only [ofText?] at read
    split at read
    · simp at read
    · rename_i left right cut
      split at read
      · rename_i halves
        simp only [Option.some.injEq, Address.mk.injEq] at read
        obtain ⟨rfl, rfl⟩ := read
        obtain ⟨shape, _⟩ := Text.cutFirst?_eq_some_iff.1 cut
        simp only [Bool.and_eq_true] at halves
        exact ⟨shape, halves⟩
      · simp at read
  · rintro ⟨rfl, validLocal, validDomain⟩
    have cut :
        Text.cutFirst? '@' (Address.text ⟨localPart, domain⟩) =
          some (localPart, domain) :=
      Text.cutFirst?_eq_some_iff.2
        ⟨rfl, at_not_mem_of_isHalf validLocal⟩
    simp only at validLocal validDomain
    simp [ofText?, cut, validLocal, validDomain]

theorem ofText_eq_ok_iff
    {text : String}
    {address : Address} :
    ofText text = .ok address ↔ ofText? text = some address := by
  unfold ofText
  cases ofText? text <;> simp

theorem ofText_eq_error_iff
    {text : String}
    {error : InvalidAddress} :
    ofText text = .error error ↔
      ofText? text = none ∧ error = ⟨text⟩ := by
  unfold ofText
  cases ofText? text <;> simp [eq_comm]

end Address

end Postroom
