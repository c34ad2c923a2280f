namespace Postroom.Text

/-!
# Text as bytes

Texts travel as UTF-8. Reading never fails: every maximal start of a
character that the next byte breaks off, and every byte that can start none,
becomes one replacement character. The main lemmas say that each character
takes at least one byte and that bytes are read in order.
-/

/-- The bytes of a row of characters. -/
def encodeCharacters (characters : List Char) : List UInt8 :=
  characters.flatMap String.utf8EncodeChar

/-- The bytes of a text. -/
def encode (text : String) : List UInt8 :=
  encodeCharacters text.toList

/-- The character that stands for bytes which form none. -/
def replacement : Char :=
  '\uFFFD'

/-- What the first byte of a longer character asks of the bytes behind it. -/
structure Lead where
  /-- The leading bits of the character's code. -/
  bits : Nat
  /-- The least second byte. -/
  least : UInt8
  /-- The greatest second byte. -/
  greatest : UInt8
  /-- How many further bytes follow the second one. -/
  further : Nat
  deriving Repr, DecidableEq

/-- The demands of a first byte, if it can start a longer character at all. -/
def lead? (first : UInt8) : Option Lead :=
  if first < 0xC2 then
    none
  else if first < 0xE0 then
    some ⟨first.toNat - 0xC0, 0x80, 0xBF, 0⟩
  else if first < 0xF0 then
    some
      ⟨first.toNat - 0xE0,
        if first = 0xE0 then 0xA0 else 0x80,
        if first = 0xED then 0x9F else 0xBF,
        1⟩
  else if first < 0xF5 then
    some
      ⟨first.toNat - 0xF0,
        if first = 0xF0 then 0x90 else 0x80,
        if first = 0xF4 then 0x8F else 0xBF,
        2⟩
  else
    none

/-- Read a given number of continuation bytes and add their bits to a code. -/
def finishCharacter :
    Nat →
    Nat →
    List UInt8 →
    Char × List UInt8
  | 0, code, rest =>
      (Char.ofNat code, rest)
  | _ + 1, _, [] =>
      (replacement, [])
  | further + 1, code, byte :: rest =>
      if 0x80 ≤ byte ∧ byte ≤ 0xBF then
        finishCharacter further (code * 64 + (byte.toNat - 0x80)) rest
      else
        (replacement, byte :: rest)

/-- Read one character whose first byte has been taken off the stream. -/
def takeCharacter
    (first : UInt8)
    (behind : List UInt8) :
    Char × List UInt8 :=
  if first < 0x80 then
    (Char.ofNat first.toNat, behind)
  else
    match lead? first, behind with
    | some lead, second :: rest =>
        if lead.least ≤ second ∧ second ≤ lead.greatest then
          finishCharacter lead.further
            (lead.bits * 64 + (second.toNat - 0x80)) rest
        else
          (replacement, behind)
    | _, _ =>
        (replacement, behind)

/-- Continuation bytes are only ever taken away. -/
theorem length_finishCharacter_le
    (further code : Nat)
    (bytes : List UInt8) :
    (finishCharacter further code bytes).2.length ≤ bytes.length := by
  induction further generalizing code bytes with
  | zero =>
      simp [finishCharacter]
  | succ further inductionHypothesis =>
      cases bytes with
      | nil =>
          simp [finishCharacter]
      | cons byte rest =>
          simp only [finishCharacter]
          split
          · have shorter := inductionHypothesis
              (code * 64 + (byte.toNat - 0x80)) rest
            simp only [List.length_cons]
            omega
          · simp

/-- Reading a character leaves no more bytes than there were behind its first. -/
theorem length_takeCharacter_le
    (first : UInt8)
    (behind : List UInt8) :
    (takeCharacter first behind).2.length ≤ behind.length := by
  unfold takeCharacter
  split
  · simp
  · split
    · rename_i lead second rest _
      split
      · have shorter := length_finishCharacter_le lead.further
          (lead.bits * 64 + (second.toNat - 0x80)) rest
        simp only [List.length_cons]
        omega
      · simp
    · simp

/-- Read characters to the end, in front of those that were read before. -/
def decodeOnto
    (earlier : List Char) :
    List UInt8 →
    List Char
  | [] =>
      earlier.reverse
  | first :: behind =>
      decodeOnto
        ((takeCharacter first behind).1 :: earlier)
        (takeCharacter first behind).2
  termination_by bytes => bytes.length
  decreasing_by
    have shorter := length_takeCharacter_le first behind
    simp only [List.length_cons]
    omega

/-- The characters of a row of bytes. -/
def decodeCharacters (bytes : List UInt8) : List Char :=
  decodeOnto [] bytes

/-- The text that a row of bytes denotes. -/
def decode (bytes : List UInt8) : String :=
  String.ofList (decodeCharacters bytes)

/-- Characters read before stand in front of those that are read now. -/
theorem decodeOnto_eq
    (earlier : List Char)
    (bytes : List UInt8) :
    decodeOnto earlier bytes =
      earlier.reverse ++ decodeCharacters bytes := by
  unfold decodeCharacters
  induction size : bytes.length using Nat.strongRecOn
      generalizing earlier bytes with
  | ind length inductionHypothesis =>
      cases bytes with
      | nil =>
          simp [decodeOnto]
      | cons first behind =>
          have shorter :
              (takeCharacter first behind).2.length < length := by
            have bound := length_takeCharacter_le first behind
            simp only [List.length_cons] at size
            omega
          rw [decodeOnto, decodeOnto,
            inductionHypothesis _ shorter
              ((takeCharacter first behind).1 :: earlier) _ rfl,
            inductionHypothesis _ shorter
              [(takeCharacter first behind).1] _ rfl]
          simp

@[simp] theorem decodeCharacters_nil :
    decodeCharacters [] = [] := by
  simp [decodeCharacters, decodeOnto]

/-- The first character is read from the front of the bytes. -/
theorem decodeCharacters_cons
    (first : UInt8)
    (behind : List UInt8) :
    decodeCharacters (first :: behind) =
      (takeCharacter first behind).1 ::
        decodeCharacters (takeCharacter first behind).2 := by
  rw [decodeCharacters, decodeOnto, decodeOnto_eq]
  rfl

@[simp] theorem decode_nil :
    decode [] = "" := by
  simp [decode]

@[simp] theorem encode_empty :
    encode "" = [] := by
  simp [encode, encodeCharacters]

@[simp] theorem encode_append (left right : String) :
    encode (left ++ right) = encode left ++ encode right := by
  simp [encode, encodeCharacters]

end Postroom.Text
