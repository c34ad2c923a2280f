import Postroom.Text.Utf8

namespace Postroom.Text

/-!
# Texts survive their bytes

Reading the bytes of a text gives the text back, whatever bytes stand behind
it. A byte below 128 occurs in the bytes of a text only as the character of
the same code.
-/

/-- The code of a character avoids the surrogates. -/
theorem toNat_valid (character : Char) :
    character.toNat < 0xD800 ∨
      0xDFFF < character.toNat ∧ character.toNat < 0x110000 :=
  character.valid

/-- A byte carries the number it is made of. -/
theorem toNat_byte
    {value : Nat}
    (small : value < 256) :
    (UInt8.ofNat value).toNat = value :=
  UInt8.toNat_ofNat_of_lt' small

/-- What a continuation byte carries. -/
theorem toNat_continuation
    {bits : Nat}
    (small : bits < 64) :
    (UInt8.ofNat (bits + 0x80)).toNat = bits + 0x80 :=
  toNat_byte (by omega)

/-- A continuation byte adds its bits to the code. -/
theorem finishCharacter_continuation
    (further code : Nat)
    {bits : Nat}
    (small : bits < 64)
    (rest : List UInt8) :
    finishCharacter (further + 1) code
        (UInt8.ofNat (bits + 0x80) :: rest) =
      finishCharacter further (code * 64 + bits) rest := by
  have byte := toNat_continuation small
  have inRange :
      0x80 ≤ UInt8.ofNat (bits + 0x80) ∧
        UInt8.ofNat (bits + 0x80) ≤ 0xBF := by
    simp only [UInt8.le_iff_toNat_le, byte, UInt8.reduceToNat]
    omega
  rw [finishCharacter, if_pos inRange, byte, Nat.add_sub_cancel]

/-- A first byte with demands is no character by itself. -/
theorem not_short_of_lead
    {first : UInt8}
    {lead : Lead}
    (leads : lead? first = some lead) :
    ¬ first < 0x80 := by
  intro short
  have less : first < 0xC2 := by
    simp only [UInt8.lt_iff_toNat_lt, UInt8.reduceToNat] at short ⊢
    omega
  rw [lead?, if_pos less] at leads
  cases leads

/-- A longer character is read from its first byte's bits and the bytes behind. -/
theorem takeCharacter_of_lead
    {first : UInt8}
    {lead : Lead}
    (leads : lead? first = some lead)
    {bits : Nat}
    (small : bits < 64)
    (least : lead.least.toNat ≤ bits + 0x80)
    (greatest : bits + 0x80 ≤ lead.greatest.toNat)
    (rest : List UInt8) :
    takeCharacter first (UInt8.ofNat (bits + 0x80) :: rest) =
      finishCharacter lead.further (lead.bits * 64 + bits) rest := by
  have byte := toNat_continuation small
  have notShort : ¬ first < 0x80 :=
    not_short_of_lead leads
  have inRange :
      lead.least ≤ UInt8.ofNat (bits + 0x80) ∧
        UInt8.ofNat (bits + 0x80) ≤ lead.greatest := by
    simp only [UInt8.le_iff_toNat_le, byte]
    exact ⟨least, greatest⟩
  simp only [takeCharacter, notShort, ↓reduceIte, leads, inRange, and_self,
    byte, Nat.add_sub_cancel]

theorem lead?_two
    (bits : Nat)
    (least : 2 ≤ bits)
    (small : bits < 0x20) :
    lead? (UInt8.ofNat (bits + 0xC0)) = some ⟨bits, 0x80, 0xBF, 0⟩ := by
  have byte : (UInt8.ofNat (bits + 0xC0)).toNat = bits + 0xC0 :=
    toNat_byte (by omega)
  have notLess : ¬ bits + 0xC0 < 0xC2 := by
    omega
  have less : bits + 0xC0 < 0xE0 := by
    omega
  simp only [lead?, UInt8.lt_iff_toNat_lt, byte, UInt8.reduceToNat, notLess,
    less, ↓reduceIte, Nat.add_sub_cancel]

theorem lead?_three
    (bits : Nat)
    (small : bits < 0x10) :
    lead? (UInt8.ofNat (bits + 0xE0)) =
      some
        ⟨bits,
          if bits = 0 then 0xA0 else 0x80,
          if bits = 0xD then 0x9F else 0xBF,
          1⟩ := by
  have byte : (UInt8.ofNat (bits + 0xE0)).toNat = bits + 0xE0 :=
    toNat_byte (by omega)
  have notTwo : ¬ bits + 0xE0 < 0xC2 ∧ ¬ bits + 0xE0 < 0xE0 := by
    omega
  have less : bits + 0xE0 < 0xF0 := by
    omega
  have isFirst : bits + 0xE0 = 0xE0 ↔ bits = 0 := by
    omega
  have isSurrogate : bits + 0xE0 = 0xED ↔ bits = 0xD := by
    omega
  simp only [lead?, UInt8.lt_iff_toNat_lt, ← UInt8.toNat_inj, byte,
    UInt8.reduceToNat, notTwo, less, isFirst, isSurrogate, ↓reduceIte,
    Nat.add_sub_cancel]

theorem lead?_four
    (bits : Nat)
    (small : bits < 5) :
    lead? (UInt8.ofNat (bits + 0xF0)) =
      some
        ⟨bits,
          if bits = 0 then 0x90 else 0x80,
          if bits = 4 then 0x8F else 0xBF,
          2⟩ := by
  have byte : (UInt8.ofNat (bits + 0xF0)).toNat = bits + 0xF0 :=
    toNat_byte (by omega)
  have notThree :
      ¬ bits + 0xF0 < 0xC2 ∧ ¬ bits + 0xF0 < 0xE0 ∧
        ¬ bits + 0xF0 < 0xF0 := by
    omega
  have less : bits + 0xF0 < 0xF5 := by
    omega
  have isFirst : bits + 0xF0 = 0xF0 ↔ bits = 0 := by
    omega
  have isLast : bits + 0xF0 = 0xF4 ↔ bits = 4 := by
    omega
  simp only [lead?, UInt8.lt_iff_toNat_lt, ← UInt8.toNat_inj, byte,
    UInt8.reduceToNat, notThree, less, isFirst, isLast, ↓reduceIte,
    Nat.add_sub_cancel]

/-- A character has one byte, or the bits of its code follow each other in two to four. -/
theorem utf8EncodeChar_shape (character : Char) :
    let code := character.toNat
    let bytes := String.utf8EncodeChar character
    code ≤ 0x7F ∧ bytes = [UInt8.ofNat code] ∨
      0x7F < code ∧ code ≤ 0x7FF ∧
        bytes =
          [UInt8.ofNat (code / 64 + 0xC0),
            UInt8.ofNat (code % 64 + 0x80)] ∨
      0x7FF < code ∧ code ≤ 0xFFFF ∧
        bytes =
          [UInt8.ofNat (code / 4096 + 0xE0),
            UInt8.ofNat (code / 64 % 64 + 0x80),
            UInt8.ofNat (code % 64 + 0x80)] ∨
      0xFFFF < code ∧
        bytes =
          [UInt8.ofNat (code / 262144 + 0xF0),
            UInt8.ofNat (code / 4096 % 64 + 0x80),
            UInt8.ofNat (code / 64 % 64 + 0x80),
            UInt8.ofNat (code % 64 + 0x80)] := by
  have valid := toNat_valid character
  have sameCode : character.val.toNat = character.toNat :=
    rfl
  simp only [String.utf8EncodeChar, sameCode]
  generalize character.toNat = code at valid
  split
  · rename_i one
    exact Or.inl ⟨one, rfl⟩
  · split
    · rename_i two
      have bits : code / 64 % 0x20 = code / 64 := by
        omega
      exact Or.inr (Or.inl ⟨by omega, two, by rw [bits]⟩)
    · split
      · rename_i three
        have bits : code / 4096 % 0x10 = code / 4096 := by
          omega
        exact Or.inr (Or.inr (Or.inl ⟨by omega, three, by rw [bits]⟩))
      · have bits : code / 262144 % 0x08 = code / 262144 := by
          omega
        exact Or.inr (Or.inr (Or.inr ⟨by omega, by rw [bits]⟩))

/-- A character below 128 is one byte. -/
theorem utf8EncodeChar_short
    {short : Char}
    (isShort : short.toNat < 0x80) :
    String.utf8EncodeChar short = [UInt8.ofNat short.toNat] := by
  rcases utf8EncodeChar_shape short with
    ⟨_, bytes⟩ | ⟨above, _⟩ | ⟨above, _⟩ | ⟨above, _⟩
  · exact bytes
  all_goals omega

/-- A character has one to four bytes. -/
theorem length_utf8EncodeChar (character : Char) :
    1 ≤ (String.utf8EncodeChar character).length ∧
      (String.utf8EncodeChar character).length ≤ 4 := by
  rcases utf8EncodeChar_shape character with
    ⟨_, bytes⟩ | ⟨_, _, bytes⟩ | ⟨_, _, bytes⟩ | ⟨_, bytes⟩
  all_goals
    rw [bytes]
    exact ⟨Nat.le_add_left 1 _, by simp⟩

/-- A text has at least as many bytes as characters, and at most four times as many. -/
theorem length_encode (text : String) :
    text.toList.length ≤ (encode text).length ∧
      (encode text).length ≤ 4 * text.toList.length := by
  unfold encode
  induction text.toList with
  | nil =>
      exact ⟨Nat.le_refl 0, Nat.le_refl 0⟩
  | cons first rest inductionHypothesis =>
      have front := length_utf8EncodeChar first
      simp only [encodeCharacters, List.flatMap_cons, List.length_append,
        List.length_cons] at inductionHypothesis ⊢
      omega

/-- A text of characters below 128 has as many bytes as characters. -/
theorem length_encode_of_short
    {text : String}
    (short : ∀ character ∈ text.toList, character.toNat < 0x80) :
    (encode text).length = text.toList.length := by
  have one :
      ∀ character ∈ text.toList,
        (String.utf8EncodeChar character).length = 1 :=
    fun character member => by
      rw [utf8EncodeChar_short (short character member), List.length_singleton]
  rw [encode, encodeCharacters, List.length_flatMap,
    List.map_congr_left one, List.map_const', List.sum_replicate_nat,
    Nat.mul_one]

/-- A repeated character takes its bytes as often. -/
theorem length_encode_replicate
    (count : Nat)
    (character : Char) :
    (encode (String.ofList (List.replicate count character))).length =
      count * (String.utf8EncodeChar character).length := by
  simp [encode, encodeCharacters, List.length_flatMap]

/-- One byte is read as the character of its code. -/
theorem decodeCharacters_one
    {code : Nat}
    (below : code ≤ 0x7F)
    (rest : List UInt8) :
    decodeCharacters (UInt8.ofNat code :: rest) =
      Char.ofNat code :: decodeCharacters rest := by
  have byte : (UInt8.ofNat code).toNat = code :=
    toNat_byte (by omega)
  have short : UInt8.ofNat code < 0x80 := by
    simp only [UInt8.lt_iff_toNat_lt, byte, UInt8.reduceToNat]
    omega
  simp only [decodeCharacters_cons, takeCharacter, short, ↓reduceIte, byte]

/-- Two bytes are read as the character whose bits they carry. -/
theorem decodeCharacters_two
    {code : Nat}
    (above : 0x7F < code)
    (below : code ≤ 0x7FF)
    (rest : List UInt8) :
    decodeCharacters
        (UInt8.ofNat (code / 64 + 0xC0) ::
          UInt8.ofNat (code % 64 + 0x80) :: rest) =
      Char.ofNat code :: decodeCharacters rest := by
  have leads := lead?_two (code / 64) (by omega) (by omega)
  have rejoined : code / 64 * 64 + code % 64 = code := by
    omega
  rw [decodeCharacters_cons,
    takeCharacter_of_lead leads (by omega)
      (by simp only [UInt8.reduceToNat]; omega)
      (by simp only [UInt8.reduceToNat]; omega),
    rejoined, finishCharacter]

/-- Three bytes are read as their character, unless it is a surrogate. -/
theorem decodeCharacters_three
    {code : Nat}
    (above : 0x7FF < code)
    (below : code ≤ 0xFFFF)
    (noSurrogate : code < 0xD800 ∨ 0xDFFF < code)
    (rest : List UInt8) :
    decodeCharacters
        (UInt8.ofNat (code / 4096 + 0xE0) ::
          UInt8.ofNat (code / 64 % 64 + 0x80) ::
            UInt8.ofNat (code % 64 + 0x80) :: rest) =
      Char.ofNat code :: decodeCharacters rest := by
  have leads := lead?_three (code / 4096) (by omega)
  have rejoined :
      (code / 4096 * 64 + code / 64 % 64) * 64 + code % 64 = code := by
    omega
  rw [decodeCharacters_cons,
    takeCharacter_of_lead leads (by omega)
      (by
        simp only [apply_ite UInt8.toNat, UInt8.reduceToNat]
        split <;> omega)
      (by
        simp only [apply_ite UInt8.toNat, UInt8.reduceToNat]
        split <;> omega),
    finishCharacter_continuation _ _ (by omega),
    rejoined, finishCharacter]

/-- Four bytes are read as the character whose bits they carry. -/
theorem decodeCharacters_four
    {code : Nat}
    (above : 0xFFFF < code)
    (below : code < 0x110000)
    (rest : List UInt8) :
    decodeCharacters
        (UInt8.ofNat (code / 262144 + 0xF0) ::
          UInt8.ofNat (code / 4096 % 64 + 0x80) ::
            UInt8.ofNat (code / 64 % 64 + 0x80) ::
              UInt8.ofNat (code % 64 + 0x80) :: rest) =
      Char.ofNat code :: decodeCharacters rest := by
  have leads := lead?_four (code / 262144) (by omega)
  have rejoined :
      ((code / 262144 * 64 + code / 4096 % 64) * 64 + code / 64 % 64) * 64 +
          code % 64 =
        code := by
    omega
  rw [decodeCharacters_cons,
    takeCharacter_of_lead leads (by omega)
      (by
        simp only [apply_ite UInt8.toNat, UInt8.reduceToNat]
        split <;> omega)
      (by
        simp only [apply_ite UInt8.toNat, UInt8.reduceToNat]
        split <;> omega),
    finishCharacter_continuation _ _ (by omega),
    finishCharacter_continuation _ _ (by omega),
    rejoined, finishCharacter]

/-- A character is read from its own bytes, and nothing of those behind it. -/
theorem decodeCharacters_utf8EncodeChar
    (character : Char)
    (rest : List UInt8) :
    decodeCharacters (String.utf8EncodeChar character ++ rest) =
      character :: decodeCharacters rest := by
  have valid := toNat_valid character
  have whole :
      Char.ofNat character.toNat :: decodeCharacters rest =
        character :: decodeCharacters rest := by
    rw [Char.ofNat_toNat]
  rcases utf8EncodeChar_shape character with
    ⟨below, bytes⟩ | ⟨above, below, bytes⟩ | ⟨above, below, bytes⟩ |
    ⟨above, bytes⟩
  · rw [bytes]
    exact (decodeCharacters_one below rest).trans whole
  · rw [bytes]
    exact (decodeCharacters_two above below rest).trans whole
  · have noSurrogate :
        character.toNat < 0xD800 ∨ 0xDFFF < character.toNat :=
      valid.imp_right And.left
    rw [bytes]
    exact (decodeCharacters_three above below noSurrogate rest).trans whole
  · have inRange : character.toNat < 0x110000 := by
      omega
    rw [bytes]
    exact (decodeCharacters_four above inRange rest).trans whole

/-- The bytes of a text are read as that text. -/
@[simp] theorem decode_encode (text : String) :
    decode (encode text) = text := by
  have characters :
      ∀ characters : List Char,
        decodeCharacters (encodeCharacters characters) = characters := by
    intro characters
    induction characters with
    | nil =>
        simp [encodeCharacters]
    | cons first rest inductionHypothesis =>
        rw [encodeCharacters, List.flatMap_cons,
          decodeCharacters_utf8EncodeChar]
        exact congrArg (List.cons first) inductionHypothesis
  simp [decode, encode, characters]

/-- A byte below 128 stands for the character of its code, and for no other. -/
theorem mem_utf8EncodeChar_iff
    {short character : Char}
    (isShort : short.toNat < 0x80) :
    UInt8.ofNat short.toNat ∈ String.utf8EncodeChar character ↔
      short = character := by
  rw [← Char.toNat_inj]
  rcases utf8EncodeChar_shape character with
    ⟨one, bytes⟩ | ⟨above, two, bytes⟩ | ⟨above, three, bytes⟩ |
    ⟨above, bytes⟩
  all_goals
    rw [bytes]
    simp only [List.mem_cons, List.not_mem_nil, or_false,
      ← UInt8.toNat_inj, UInt8.toNat_ofNat']
    have valid := toNat_valid character
    omega

/-- A byte below 128 is in the bytes of a text exactly as its character. -/
theorem mem_encode_iff
    {short : Char}
    (isShort : short.toNat < 0x80)
    {text : String} :
    UInt8.ofNat short.toNat ∈ encode text ↔ short ∈ text.toList := by
  simp only [encode, encodeCharacters, List.mem_flatMap,
    mem_utf8EncodeChar_iff isShort, exists_eq_right']

/-- Bytes that are equal up to a lesser one come first. -/
theorem cons_lt_cons_of_le
    {first second : UInt8}
    {left right : List UInt8}
    (le : first.toNat ≤ second.toNat)
    (rest : first.toNat = second.toNat → left < right) :
    first :: left < second :: right := by
  rw [List.cons_lt_cons_iff, UInt8.lt_iff_toNat_lt, ← UInt8.toNat_inj]
  rcases Nat.lt_or_eq_of_le le with less | same
  · exact Or.inl less
  · exact Or.inr ⟨same, rest same⟩

/-- The bytes of a lesser character come first, whatever stands behind them. -/
theorem utf8EncodeChar_append_lt
    {lesser greater : Char}
    (less : lesser < greater)
    (left right : List UInt8) :
    String.utf8EncodeChar lesser ++ left <
      String.utf8EncodeChar greater ++ right := by
  have lesserValid := toNat_valid lesser
  have greaterValid := toNat_valid greater
  have lessCode : lesser.toNat < greater.toNat :=
    less
  rcases utf8EncodeChar_shape lesser with
    ⟨below, bytes⟩ | ⟨above, below, bytes⟩ | ⟨above, below, bytes⟩ |
    ⟨above, bytes⟩ <;>
  rcases utf8EncodeChar_shape greater with
    ⟨below', bytes'⟩ | ⟨above', below', bytes'⟩ |
    ⟨above', below', bytes'⟩ | ⟨above', bytes'⟩
  all_goals
    rw [bytes, bytes']
    simp only [List.cons_append, List.nil_append]
    -- Some byte decides, since the codes differ; bytes before it are equal.
    repeat
      refine cons_lt_cons_of_le
        (by simp only [UInt8.toNat_ofNat']; omega) fun same => ?_
      simp only [UInt8.toNat_ofNat'] at same
      try omega

/-- Texts are ordered as their bytes are. -/
theorem encode_lt_encode_iff {left right : String} :
    encode left < encode right ↔ left < right := by
  have increasing :
      ∀ lesser greater : List Char,
        lesser < greater →
        encodeCharacters lesser < encodeCharacters greater := by
    intro lesser
    induction lesser with
    | nil =>
        intro greater less
        cases greater with
        | nil =>
            exact absurd less (List.lt_irrefl [])
        | cons first rest =>
            have inhabited := String.utf8EncodeChar_ne_nil (c := first)
            obtain ⟨byte, others, bytes⟩ := List.exists_cons_of_ne_nil inhabited
            simp [encodeCharacters, bytes]
    | cons head tail inductionHypothesis =>
        intro greater less
        cases greater with
        | nil =>
            exact absurd less (List.not_lt_nil _)
        | cons first rest =>
            simp only [encodeCharacters, List.flatMap_cons]
            rcases List.cons_lt_cons_iff.1 less with before | ⟨rfl, later⟩
            · exact utf8EncodeChar_append_lt before _ _
            · exact List.append_left_lt (inductionHypothesis rest later)
  constructor
  · intro less
    rcases Std.lt_trichotomy left right with before | same | behind
    · exact before
    · exact absurd (same ▸ less) (List.lt_irrefl _)
    · exact absurd less (List.lt_asymm (increasing _ _ behind))
  · exact increasing left.toList right.toList

end Postroom.Text
