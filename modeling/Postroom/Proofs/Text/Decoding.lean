import Mathlib.Algebra.Group.Nat.Defs
import Postroom.Proofs.Text.Utf8

namespace Postroom.Text

/-!
# What is read from arbitrary bytes

Bytes that are no text are read all the same. A character below 128 is read
from its own byte only, so no line break appears that was not there, and there
are never more characters than bytes. The bytes of a text can be cut in front
of a byte below 128 and behind it, and both parts are the bytes of a text.
-/

/-- Reading from the front proves what one character more never breaks. -/
theorem decoding_induction
    {motive : List UInt8 → Prop}
    (empty : motive [])
    (character :
      ∀ first behind,
        motive (takeCharacter first behind).2 → motive (first :: behind))
    (bytes : List UInt8) :
    motive bytes := by
  induction size : bytes.length using Nat.strongRecOn generalizing bytes with
  | ind length inductionHypothesis =>
      cases bytes with
      | nil =>
          exact empty
      | cons first behind =>
          have shorter := length_takeCharacter_le first behind
          refine character first behind (inductionHypothesis _ ?_ _ rfl)
          simp only [List.length_cons] at size
          omega

section Characters

/-- Continuation bytes are taken off the front. -/
theorem finishCharacter_suffix
    (further code : Nat)
    (bytes : List UInt8) :
    (finishCharacter further code bytes).2 <:+ bytes := by
  induction further generalizing code bytes with
  | zero =>
      exact List.suffix_refl bytes
  | succ further inductionHypothesis =>
      cases bytes with
      | nil =>
          exact List.suffix_refl []
      | cons byte rest =>
          simp only [finishCharacter]
          split
          · exact (inductionHypothesis _ rest).trans (List.suffix_cons byte rest)
          · exact List.suffix_refl (byte :: rest)

/-- The bytes of a character are taken off the front. -/
theorem takeCharacter_suffix
    (first : UInt8)
    (behind : List UInt8) :
    (takeCharacter first behind).2 <:+ behind := by
  unfold takeCharacter
  split
  · exact List.suffix_refl behind
  · split
    · rename_i second rest _
      split
      · exact
          (finishCharacter_suffix _ _ rest).trans (List.suffix_cons second rest)
      · exact List.suffix_refl (second :: rest)
    · exact List.suffix_refl _

/-- Continuation bytes fill in the lowest bits of a code. -/
theorem finishCharacter_range
    (further code : Nat)
    (bytes : List UInt8) :
    (finishCharacter further code bytes).1 = replacement ∨
      ∃ full,
        (finishCharacter further code bytes).1 = Char.ofNat full ∧
          code * 64 ^ further ≤ full ∧
          full < (code + 1) * 64 ^ further := by
  induction further generalizing code bytes with
  | zero =>
      exact Or.inr ⟨code, rfl, by omega, by omega⟩
  | succ further inductionHypothesis =>
      cases bytes with
      | nil =>
          exact Or.inl rfl
      | cons byte rest =>
          simp only [finishCharacter]
          split
          · rename_i continues
            rcases inductionHypothesis (code * 64 + (byte.toNat - 0x80)) rest
              with replaced | ⟨full, read, least, greatest⟩
            · exact Or.inl replaced
            · refine Or.inr ⟨full, read, ?_, ?_⟩
              · refine Nat.le_trans ?_ least
                rw [Nat.pow_succ', ← Nat.mul_assoc]
                exact Nat.mul_le_mul_right _ (by omega)
              · refine Nat.lt_of_lt_of_le greatest ?_
                simp only [UInt8.le_iff_toNat_le, UInt8.reduceToNat]
                  at continues
                rw [Nat.pow_succ', ← Nat.mul_assoc]
                exact Nat.mul_le_mul_right _ (by omega)
          · exact Or.inl rfl

/-- The first two bytes of a longer character keep its code in range. -/
theorem range_of_lead
    {first second : UInt8}
    {lead : Lead}
    (leads : lead? first = some lead)
    (least : lead.least ≤ second)
    (greatest : second ≤ lead.greatest) :
    let code := lead.bits * 64 + (second.toNat - 0x80)
    let last := (code + 1) * 64 ^ lead.further
    0x80 ≤ code * 64 ^ lead.further ∧
      (last ≤ 0xD800 ∨
        0xDFFF < code * 64 ^ lead.further ∧ last ≤ 0x110000) := by
  unfold lead? at leads
  simp only [UInt8.lt_iff_toNat_lt, ← UInt8.toNat_inj,
    UInt8.reduceToNat] at leads
  simp only [UInt8.le_iff_toNat_le] at least greatest
  split at leads
  · cases leads
  · split at leads
    · obtain rfl := Option.some.inj leads
      simp only [UInt8.reduceToNat] at least greatest
      simp only [Nat.pow_zero, Nat.mul_one]
      omega
    · split at leads
      · obtain rfl := Option.some.inj leads
        simp only [apply_ite UInt8.toNat, UInt8.reduceToNat]
          at least greatest
        simp only [Nat.pow_one]
        split at least <;> split at greatest <;> omega
      · split at leads
        · obtain rfl := Option.some.inj leads
          simp only [apply_ite UInt8.toNat, UInt8.reduceToNat]
            at least greatest
          simp only [Nat.reducePow]
          split at least <;> split at greatest <;> omega
        · cases leads

/-- A code in range is the code of its character. -/
theorem toNat_ofNat_of_range
    {code : Nat}
    (range : code < 0xD800 ∨ 0xDFFF < code ∧ code < 0x110000) :
    (Char.ofNat code).toNat = code := by
  rw [Char.ofNat, dif_pos range]
  rfl

/-- Only a byte below 128 is read as a character below 128. -/
theorem le_takeCharacter
    {first : UInt8}
    (long : ¬ first < 0x80)
    (behind : List UInt8) :
    0x80 ≤ (takeCharacter first behind).1.toNat := by
  have replaced : 0x80 ≤ replacement.toNat := by
    decide
  unfold takeCharacter
  rw [if_neg long]
  split
  · rename_i lead second rest leads
    split
    · rename_i inRange
      obtain ⟨lower, upper⟩ := range_of_lead leads inRange.1 inRange.2
      rcases finishCharacter_range lead.further
          (lead.bits * 64 + (second.toNat - 0x80)) rest with
        read | ⟨full, read, least, greatest⟩
      · rw [read]
        exact replaced
      · rw [read, toNat_ofNat_of_range (by omega)]
        omega
    · exact replaced
  · exact replaced

/-- A character below 128 is read from its own byte, and from nothing else. -/
theorem takeCharacter_eq_short
    {first : UInt8}
    {behind rest : List UInt8}
    {short : Char}
    (isShort : short.toNat < 0x80)
    (read : takeCharacter first behind = (short, rest)) :
    first = UInt8.ofNat short.toNat ∧ rest = behind := by
  by_cases long : first < 0x80
  · simp only [takeCharacter, long, ↓reduceIte, Prod.mk.injEq] at read
    obtain ⟨rfl, rfl⟩ := read
    have small : first.toNat < 0x80 := by
      simpa only [UInt8.lt_iff_toNat_lt, UInt8.reduceToNat] using long
    rw [toNat_ofNat_of_range (by omega), UInt8.ofNat_toNat]
    exact ⟨rfl, rfl⟩
  · have large : 0x80 ≤ short.toNat := by
      simpa only [read] using le_takeCharacter long behind
    omega

end Characters

/-- There are no more characters than bytes. -/
theorem length_decodeCharacters_le (bytes : List UInt8) :
    (decodeCharacters bytes).length ≤ bytes.length := by
  induction bytes using decoding_induction with
  | empty =>
      simp
  | character first behind inductionHypothesis =>
      have shorter := length_takeCharacter_le first behind
      simp only [decodeCharacters_cons, List.length_cons]
      omega

section Short

variable
  {short : Char}
  (isShort : short.toNat < 0x80)
  {bytes : List UInt8}

include isShort

/-- A character below 128 is read only where its byte is. -/
theorem mem_of_mem_decodeCharacters
    (member : short ∈ decodeCharacters bytes) :
    UInt8.ofNat short.toNat ∈ bytes := by
  induction bytes using decoding_induction with
  | empty =>
      simp at member
  | character first behind inductionHypothesis =>
      rw [decodeCharacters_cons, List.mem_cons] at member
      rcases member with isFirst | inRest
      · obtain ⟨same, _⟩ :=
          takeCharacter_eq_short isShort (Prod.ext isFirst.symm rfl)
        rw [same]
        exact List.mem_cons_self
      · exact
          List.mem_cons_of_mem first <|
            (takeCharacter_suffix first behind).mem
              (inductionHypothesis inRest)

/-- A character below 128 is read last only where its byte is the last one. -/
theorem getLast?_of_decodeCharacters
    (last : (decodeCharacters bytes).getLast? = some short) :
    bytes.getLast? = some (UInt8.ofNat short.toNat) := by
  induction bytes using decoding_induction with
  | empty =>
      simp at last
  | character first behind inductionHypothesis =>
      rw [decodeCharacters_cons] at last
      cases rest : (takeCharacter first behind).2 with
      | nil =>
          have isFirst : (takeCharacter first behind).1 = short := by
            simpa [rest] using last
          obtain ⟨rfl, rfl⟩ :=
            takeCharacter_eq_short isShort (Prod.ext isFirst rest)
          rfl
      | cons byte others =>
          have inhabited : decodeCharacters (byte :: others) ≠ [] := by
            simp [decodeCharacters_cons]
          rw [rest] at last inductionHypothesis
          rw [List.getLast?_cons_of_ne_nil inhabited] at last
          obtain ⟨front, whole⟩ := takeCharacter_suffix first behind
          rw [rest] at whole
          rw [← whole, ← List.cons_append, List.getLast?_append,
            inductionHypothesis last]
          rfl

end Short

/-- A byte that starts no character is read as a replacement, as often as it occurs. -/
theorem decodeCharacters_replicate
    {byte : UInt8}
    (long : ¬ byte < 0x80)
    (leadsNothing : lead? byte = none)
    (count : Nat) :
    decodeCharacters (List.replicate count byte) =
      List.replicate count replacement := by
  induction count with
  | zero =>
      exact decodeCharacters_nil
  | succ count inductionHypothesis =>
      have read (behind : List UInt8) :
          takeCharacter byte behind = (replacement, behind) := by
        simp [takeCharacter, long, leadsNothing]
      rw [List.replicate_succ, decodeCharacters_cons, read,
        inductionHypothesis, List.replicate_succ]

/-- A character that has a byte below 128 has no other byte. -/
theorem length_of_short_mem
    {character : Char}
    {byte : UInt8}
    (short : byte < 0x80)
    (member : byte ∈ String.utf8EncodeChar character) :
    (String.utf8EncodeChar character).length = 1 := by
  simp only [UInt8.lt_iff_toNat_lt, UInt8.reduceToNat] at short
  have code : (Char.ofNat byte.toNat).toNat = byte.toNat :=
    toNat_ofNat_of_range (by omega)
  have same : Char.ofNat byte.toNat = character := by
    rw [← mem_utf8EncodeChar_iff (by omega), code, UInt8.ofNat_toNat]
    exact member
  rw [← same, utf8EncodeChar_short (by omega), List.length_singleton]

/-- The characters of a text are read from the front of what stands behind it. -/
theorem decodeCharacters_encode_append
    (text : String)
    (rest : List UInt8) :
    decodeCharacters (encode text ++ rest) =
      text.toList ++ decodeCharacters rest := by
  unfold encode encodeCharacters
  induction text.toList with
  | nil =>
      rfl
  | cons first others inductionHypothesis =>
      rw [List.flatMap_cons, List.append_assoc,
        decodeCharacters_utf8EncodeChar, inductionHypothesis,
        List.cons_append]

/-- A byte below 128 is a character by itself, wherever it stands in a text. -/
theorem encodeCharacters_eq_append_cons
    {characters : List Char}
    {left right : List UInt8}
    {byte : UInt8}
    (short : byte < 0x80)
    (shape : encodeCharacters characters = left ++ byte :: right) :
    ∃ front behind,
      left = encodeCharacters front ∧ right = encodeCharacters behind := by
  induction characters generalizing left with
  | nil =>
      simp [encodeCharacters] at shape
  | cons first others inductionHypothesis =>
      have bytes :
          encodeCharacters (first :: others) =
            String.utf8EncodeChar first ++ encodeCharacters others :=
        List.flatMap_cons
      rw [bytes, List.append_eq_append_iff] at shape
      rcases shape with ⟨left, rfl, shape⟩ | ⟨inside, character, shape⟩
      · obtain ⟨front, behind, rfl, rfl⟩ := inductionHypothesis shape
        exact ⟨first :: front, behind, List.flatMap_cons.symm, rfl⟩
      · cases inside with
        | nil =>
            obtain ⟨_, behind, _, rfl⟩ :=
              @inductionHypothesis [] shape.symm
            exact
              ⟨[first], behind, by simpa [encodeCharacters] using character.symm,
                rfl⟩
        | cons head inside =>
            obtain ⟨rfl, rfl⟩ := List.cons.inj shape
            have alone :
                (String.utf8EncodeChar first).length = 1 :=
              length_of_short_mem short (by simp [character])
            rw [character] at alone
            simp only [List.length_append, List.length_cons] at alone
            obtain rfl := List.eq_nil_of_length_eq_zero (l := left) (by omega)
            obtain rfl := List.eq_nil_of_length_eq_zero (l := inside) (by omega)
            exact ⟨[], others, rfl, rfl⟩

/-- The bytes of some text. -/
def IsText (bytes : List UInt8) : Prop :=
  ∃ text, bytes = encode text

namespace IsText

theorem nil : IsText [] :=
  ⟨"", encode_empty.symm⟩

theorem append
    {left right : List UInt8}
    (front : IsText left)
    (behind : IsText right) :
    IsText (left ++ right) := by
  obtain ⟨leftText, rfl⟩ := front
  obtain ⟨rightText, rfl⟩ := behind
  exact ⟨leftText ++ rightText, (encode_append _ _).symm⟩

/-- A byte below 128 is a text of its own. -/
theorem ofShort
    {byte : UInt8}
    (short : byte < 0x80) :
    IsText [byte] := by
  simp only [UInt8.lt_iff_toNat_lt, UInt8.reduceToNat] at short
  have code : (Char.ofNat byte.toNat).toNat = byte.toNat :=
    toNat_ofNat_of_range (by omega)
  refine ⟨String.ofList [Char.ofNat byte.toNat], ?_⟩
  simp [encode, encodeCharacters, utf8EncodeChar_short, code, short]

/-- A text is cut at a byte below 128. -/
theorem split
    {left right : List UInt8}
    {byte : UInt8}
    (short : byte < 0x80)
    (isText : IsText (left ++ byte :: right)) :
    IsText left ∧ IsText right := by
  obtain ⟨text, shape⟩ := isText
  obtain ⟨front, behind, rfl, rfl⟩ :=
    encodeCharacters_eq_append_cons short shape.symm
  exact
    ⟨⟨String.ofList front, by simp [encode]⟩,
      ⟨String.ofList behind, by simp [encode]⟩⟩

/-- Reading the bytes of a text loses none of them. -/
theorem encode_decode
    {bytes : List UInt8}
    (isText : IsText bytes) :
    encode (decode bytes) = bytes := by
  obtain ⟨text, rfl⟩ := isText
  rw [decode_encode]

end IsText

end Postroom.Text
