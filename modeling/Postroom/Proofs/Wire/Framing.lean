import Postroom.Proofs.Text.Utf8
import Postroom.Wire.Conversation

namespace Postroom.Wire

/-!
# Lines arrive as they were sent

A text without a line feed, and without a carriage return at its end, is read
back from the line that carries it when it has no more bytes than a line may
have, whatever stands behind the line. A longer text without any line break is
reported as overlong, however long it is.
-/

/-- A text that breaks no line, so that one line can carry it. -/
def IsOneLine (text : String) : Prop :=
  '\n' ∉ text.toList ∧ '\r' ∉ text.toList

instance (text : String) : Decidable (IsOneLine text) :=
  inferInstanceAs (Decidable (_ ∧ _))

/-- A text that its own line gives back: a carriage return at the end would be lost. -/
def IsLine (text : String) : Prop :=
  '\n' ∉ text.toList ∧ text.toList.getLast? ≠ some '\r'

instance (text : String) : Decidable (IsLine text) :=
  inferInstanceAs (Decidable (_ ∧ _))

/-- A text has no more bytes than a line may have. -/
def Fits (text : String) : Prop :=
  (Text.encode text).length ≤ lineLimit

instance (text : String) : Decidable (Fits text) :=
  inferInstanceAs (Decidable (_ ≤ _))

@[simp] theorem isOneLine_append {left right : String} :
    IsOneLine (left ++ right) ↔ IsOneLine left ∧ IsOneLine right := by
  simp only [IsOneLine, String.toList_append, List.mem_append, not_or]
  constructor
  · rintro ⟨⟨leftFeed, rightFeed⟩, leftReturn, rightReturn⟩
    exact ⟨⟨leftFeed, leftReturn⟩, rightFeed, rightReturn⟩
  · rintro ⟨⟨leftFeed, leftReturn⟩, rightFeed, rightReturn⟩
    exact ⟨⟨leftFeed, rightFeed⟩, leftReturn, rightReturn⟩

/-- Joined texts have no other characters than the texts and the separator. -/
theorem forall_mem_intercalate
    {allowed : Char → Prop}
    {separator : String}
    (between : ∀ character ∈ separator.toList, allowed character)
    {texts : List String}
    (each : ∀ text ∈ texts, ∀ character ∈ text.toList, allowed character) :
    ∀ character ∈ (String.intercalate separator texts).toList,
      allowed character := by
  induction texts with
  | nil =>
      simp
  | cons first rest inductionHypothesis =>
      obtain ⟨front, others⟩ := List.forall_mem_cons.1 each
      have behind := inductionHypothesis others
      by_cases last : rest = []
      · simpa [last] using front
      · rw [String.intercalate_cons_of_ne_nil last]
        simp only [String.toList_append, List.mem_append]
        rintro character ((inFirst | isBetween) | inRest)
        · exact front character inFirst
        · exact between character isBetween
        · exact behind character inRest

/-- Joined texts are no longer than their number allows. -/
theorem length_intercalate_le
    (separator : String)
    {bound : Nat}
    {texts : List String}
    (each : ∀ text ∈ texts, text.toList.length ≤ bound) :
    (String.intercalate separator texts).toList.length ≤
      texts.length * (bound + separator.toList.length) := by
  induction texts with
  | nil =>
      simp
  | cons first rest inductionHypothesis =>
      obtain ⟨front, others⟩ := List.forall_mem_cons.1 each
      have behind := inductionHypothesis others
      by_cases last : rest = []
      · subst last
        simp
        omega
      · rw [String.intercalate_cons_of_ne_nil last]
        simp only [String.toList_append, List.length_append,
          List.length_cons, Nat.add_mul, Nat.one_mul]
        omega

theorem isOneLine_iff {text : String} :
    IsOneLine text ↔
      ∀ character ∈ text.toList, character ≠ '\n' ∧ character ≠ '\r' := by
  constructor
  · rintro oneLine character member
    exact
      ⟨fun same => oneLine.1 (same ▸ member),
        fun same => oneLine.2 (same ▸ member)⟩
  · intro each
    exact
      ⟨fun member => (each _ member).1 rfl,
        fun member => (each _ member).2 rfl⟩

theorem isOneLine_intercalate
    {separator : String}
    (between : IsOneLine separator)
    {texts : List String}
    (each : ∀ text ∈ texts, IsOneLine text) :
    IsOneLine (String.intercalate separator texts) :=
  isOneLine_iff.2 <|
    forall_mem_intercalate (isOneLine_iff.1 between)
      fun text member => isOneLine_iff.1 (each text member)

/-- A character that breaks no line breaks none when it is repeated. -/
theorem isOneLine_replicate
    {character : Char}
    (notFeed : character ≠ '\n')
    (notReturn : character ≠ '\r')
    (count : Nat) :
    IsOneLine (String.ofList (List.replicate count character)) := by
  simp [IsOneLine, List.mem_replicate, Ne.symm notFeed, Ne.symm notReturn]

/-- A numeral breaks no line. -/
theorem isOneLine_toDigits
    {base : Nat}
    (large : 1 < base)
    (number : Nat) :
    IsOneLine (String.ofList (Nat.toDigits base number)) := by
  have digit (value : Nat) :
      '\n' ≠ value.digitChar ∧ '\r' ≠ value.digitChar :=
    ⟨(Nat.digitChar_ne '\n' (by decide)).symm,
      (Nat.digitChar_ne '\r' (by decide)).symm⟩
  simp only [IsOneLine, String.toList_ofList]
  induction number using Nat.strongRecOn with
  | ind number inductionHypothesis =>
      rw [Nat.toDigits_eq_if large]
      split
      · simp [digit]
      · rename_i notLess
        have smaller : number / base < number :=
          Nat.div_lt_self (by omega) large
        simpa [digit] using inductionHypothesis _ smaller

/-- A number of a machine word makes a short line behind a short keyword. -/
theorem fits_append_writeDecimal
    {keyword : String}
    (plain : IsOneLine keyword)
    (short : (Text.encode keyword).length ≤ 10)
    {number : Nat}
    (below : number < UInt64.size) :
    IsOneLine (keyword ++ Text.writeDecimal number) ∧
      Fits (keyword ++ Text.writeDecimal number) := by
  have digits := Text.toList_writeDecimal number
  have few : (Nat.toDigits 10 number).length ≤ 20 := by
    rw [Nat.length_toDigits_le_iff (by decide) (by decide)]
    exact Nat.lt_trans below (by decide)
  constructor
  · have numeral := isOneLine_toDigits (by decide : 1 < 10) number
    rw [← digits, String.ofList_toList] at numeral
    exact isOneLine_append.2 ⟨plain, numeral⟩
  · have bytes := (Text.length_encode (Text.writeDecimal number)).2
    rw [digits] at bytes
    simp only [Fits, lineLimit, Text.encode_append, List.length_append]
    omega

theorem IsOneLine.isLine
    {text : String}
    (oneLine : IsOneLine text) :
    IsLine text :=
  ⟨oneLine.1, fun last => oneLine.2 (List.mem_of_getLast? last)⟩

/-- What stands at the end of a line could stand on a line alone. -/
theorem IsLine.of_append
    {left right : String}
    (isLine : IsLine (left ++ right)) :
    IsLine right := by
  obtain ⟨noFeed, last⟩ := isLine
  rw [String.toList_append, List.mem_append, not_or] at noFeed
  rw [String.toList_append, List.getLast?_append] at last
  refine ⟨noFeed.2, fun returns => last ?_⟩
  rw [returns, Option.some_or]

theorem IsLine.append
    {left right : String}
    (front : IsLine left)
    (behind : IsLine right) :
    IsLine (left ++ right) := by
  constructor
  · simp only [String.toList_append, List.mem_append, not_or]
    exact ⟨front.1, behind.1⟩
  · rw [String.toList_append, List.getLast?_append]
    cases last : right.toList.getLast? with
    | none =>
        simpa using front.2
    | some character =>
        simpa [last] using behind.2

/-- No byte of a text without line breaks belongs to the end of a line. -/
theorem IsOneLine.endsLine_eq_false
    {text : String}
    (oneLine : IsOneLine text)
    {byte : UInt8}
    (member : byte ∈ Text.encode text) :
    endsLine byte = false := by
  have feed : lineFeed ∈ Text.encode text ↔ '\n' ∈ text.toList :=
    @Text.mem_encode_iff '\n' (by decide) text
  have return_ : carriageReturn ∈ Text.encode text ↔ '\r' ∈ text.toList :=
    @Text.mem_encode_iff '\r' (by decide) text
  simp only [endsLine, Bool.or_eq_false_iff, beq_eq_false_iff_ne]
  exact
    ⟨fun same => oneLine.1 (feed.1 (same ▸ member)),
      fun same => oneLine.2 (return_.1 (same ▸ member))⟩

/-- The last byte of a line belongs to its content. -/
theorem IsLine.endsLine_getLast?
    {text : String}
    (isLine : IsLine text)
    {byte : UInt8}
    (last : (Text.encode text).getLast? = some byte) :
    endsLine byte = false := by
  rcases List.eq_nil_or_concat text.toList with
    empty | ⟨front, character, shape⟩
  · simp [Text.encode, Text.encodeCharacters, empty] at last
  · have lastCharacter : text.toList.getLast? = some character := by
      simp [shape]
    have ofCharacter : byte ∈ String.utf8EncodeChar character := by
      simp only [Text.encode, Text.encodeCharacters, shape,
        List.concat_eq_append, List.flatMap_append, List.flatMap_cons,
        List.flatMap_nil, List.append_nil] at last
      rw [List.getLast?_append,
        List.getLast?_eq_some_getLast String.utf8EncodeChar_ne_nil,
        Option.some_or, Option.some.injEq] at last
      exact last ▸ List.getLast_mem String.utf8EncodeChar_ne_nil
    simp only [endsLine, Bool.or_eq_false_iff, beq_eq_false_iff_ne]
    constructor
    · rintro rfl
      have same : '\n' = character :=
        (Text.mem_utf8EncodeChar_iff (by decide)).1 ofCharacter
      exact isLine.1 (same ▸ List.mem_of_getLast? lastCharacter)
    · rintro rfl
      have same : '\r' = character :=
        (Text.mem_utf8EncodeChar_iff (by decide)).1 ofCharacter
      exact isLine.2 (same ▸ lastCharacter)

section Segments

/-- A line feed within reach ends the segment. -/
theorem takeSegment_of_lineFeed
    (taken : List UInt8)
    {bytes : List UInt8}
    (absent : lineFeed ∉ bytes)
    {room : Nat}
    (near : bytes.length < room)
    (rest : List UInt8) :
    takeSegment taken room (bytes ++ lineFeed :: rest) =
      (taken.reverse ++ bytes ++ [lineFeed], rest) := by
  induction bytes generalizing taken room with
  | nil =>
      obtain ⟨less, rfl⟩ := Nat.exists_eq_add_of_lt near
      simp [takeSegment]
  | cons first others inductionHypothesis =>
      cases room with
      | zero =>
          exact absurd near (Nat.not_lt_zero _)
      | succ room =>
          simp only [List.mem_cons, not_or] at absent
          have notFeed : ¬ first = lineFeed :=
            fun same => absent.1 same.symm
          rw [List.cons_append, takeSegment, if_neg notFeed,
            inductionHypothesis (first :: taken) absent.2
              (Nat.lt_of_succ_lt_succ near)]
          simp

/-- Without a line feed within reach, a segment has as many bytes as it may. -/
theorem takeSegment_of_long
    (taken : List UInt8)
    {bytes : List UInt8}
    (absent : lineFeed ∉ bytes)
    {room : Nat}
    (far : room ≤ bytes.length)
    (rest : List UInt8) :
    takeSegment taken room (bytes ++ rest) =
      (taken.reverse ++ bytes.take room, bytes.drop room ++ rest) := by
  induction room generalizing taken bytes with
  | zero =>
      simp [takeSegment]
  | succ room inductionHypothesis =>
      cases bytes with
      | nil =>
          exact absurd far (Nat.not_succ_le_zero _)
      | cons first others =>
          simp only [List.mem_cons, not_or] at absent
          have notFeed : ¬ first = lineFeed :=
            fun same => absent.1 same.symm
          rw [List.cons_append, takeSegment, if_neg notFeed,
            inductionHypothesis (first :: taken) absent.2
              (Nat.le_of_succ_le_succ far)]
          simp

/-- Without a line feed, a segment reaches to the end of a stream that is short enough. -/
theorem takeSegment_of_short
    (taken : List UInt8)
    {bytes : List UInt8}
    (absent : lineFeed ∉ bytes)
    {room : Nat}
    (near : bytes.length ≤ room) :
    takeSegment taken room bytes = (taken.reverse ++ bytes, []) := by
  induction bytes generalizing taken room with
  | nil =>
      cases room <;> simp [takeSegment]
  | cons first others inductionHypothesis =>
      cases room with
      | zero =>
          exact absurd near (Nat.not_succ_le_zero _)
      | succ room =>
          simp only [List.mem_cons, not_or] at absent
          have notFeed : ¬ first = lineFeed :=
            fun same => absent.1 same.symm
          rw [takeSegment, if_neg notFeed,
            inductionHypothesis (first :: taken) absent.2
              (Nat.le_of_succ_le_succ near)]
          simp

/-- Bytes of which the last one ends no line are all content. -/
theorem content_of_getLast?
    {bytes : List UInt8}
    (kept : ∀ byte, bytes.getLast? = some byte → endsLine byte = false) :
    content bytes = bytes := by
  unfold content
  cases reversed : bytes.reverse with
  | nil =>
      simpa using reversed
  | cons last others =>
      have isLast : bytes.getLast? = some last := by
        rw [← List.head?_reverse, reversed, List.head?_cons]
      rw [List.dropWhile_cons_of_neg (by simp [kept last isLast]),
        ← reversed, List.reverse_reverse]

/-- Bytes of which none ends a line are all content. -/
theorem content_of_oneLine
    {bytes : List UInt8}
    (none : ∀ byte ∈ bytes, endsLine byte = false) :
    content bytes = bytes :=
  content_of_getLast? fun byte last => none byte (List.mem_of_getLast? last)

/-- What ends a line behind some bytes is not content. -/
theorem content_append_of_ends
    (bytes : List UInt8)
    {ending : List UInt8}
    (ends : ending.all endsLine = true) :
    content (bytes ++ ending) = content bytes := by
  have reversed : ∀ byte ∈ ending.reverse, endsLine byte = true :=
    fun byte member => List.all_eq_true.1 ends byte (List.mem_reverse.1 member)
  rw [content, List.reverse_append, List.dropWhile_append_of_pos reversed,
    content]

/-- The line feed behind a line is not content. -/
theorem content_append_lineFeed (bytes : List UInt8) :
    content (bytes ++ [lineFeed]) = content bytes :=
  content_append_of_ends bytes (by decide)

/-- There is no more content than bytes. -/
theorem length_content_le (bytes : List UInt8) :
    (content bytes).length ≤ bytes.length := by
  simpa [content] using
    (List.dropWhile_suffix (l := bytes.reverse) endsLine).length_le

/-- Everything in front of a byte that ends no line is content, and so is the byte. -/
theorem length_lt_length_content
    (front : List UInt8)
    {byte : UInt8}
    (kept : endsLine byte = false)
    (behind : List UInt8) :
    front.length < (content (front ++ byte :: behind)).length := by
  have stops :
      (byte :: front.reverse).dropWhile endsLine =
        byte :: front.reverse :=
    List.dropWhile_cons_of_neg (by simp [kept])
  simp only [content, List.reverse_append, List.reverse_cons,
    List.append_assoc, List.singleton_append, List.dropWhile_append, stops]
  split <;> simp

end Segments

/-- A reader finds a line whole as soon as its line feed has arrived. -/
theorem isComplete_sendLine
    (text : String)
    (rest : List UInt8) :
    isComplete (sendLine text ++ rest) = true := by
  simp [isComplete, sendLine]

/-- A stream that goes on gives one segment. -/
theorem readLine?_of_ne_nil
    {stream : List UInt8}
    (inhabited : stream ≠ []) :
    readLine? stream =
      some
        (ofSegment (takeSegment [] segmentLimit stream).1,
          (takeSegment [] segmentLimit stream).2) := by
  cases stream with
  | nil =>
      exact absurd rfl inhabited
  | cons byte rest =>
      rfl

/-- A segment is read of every stream that goes on, and of no other. -/
theorem readLine?_eq_some_iff
    {stream behind : List UInt8}
    {first : Incoming} :
    readLine? stream = some (first, behind) ↔
      stream ≠ [] ∧
        ofSegment (takeSegment [] segmentLimit stream).1 = first ∧
        (takeSegment [] segmentLimit stream).2 = behind := by
  cases stream <;> simp [readLine?]

/-- Bytes that fit and end with content are read up to the line feed, returns before it or not. -/
theorem readLine?_of_returns_lineFeed
    {bytes returns : List UInt8}
    (absent : lineFeed ∉ bytes)
    (kept : ∀ byte, bytes.getLast? = some byte → endsLine byte = false)
    (fits : bytes.length ≤ lineLimit)
    (areReturns : ∀ byte ∈ returns, byte = carriageReturn)
    (near : bytes.length + returns.length < segmentLimit)
    (rest : List UInt8) :
    readLine? (bytes ++ returns ++ lineFeed :: rest) =
      some (.line (Text.decode bytes), rest) := by
  have absentToo : lineFeed ∉ bytes ++ returns := by
    rw [List.mem_append]
    rintro (member | member)
    · exact absent member
    · exact absurd (areReturns lineFeed member) (by decide)
  have nearEnough : (bytes ++ returns).length < segmentLimit := by
    rw [List.length_append]
    exact near
  have lost : returns.all endsLine = true := by
    rw [List.all_eq_true]
    intro byte member
    rw [areReturns byte member]
    rfl
  have whole : content (bytes ++ returns ++ [lineFeed]) = bytes := by
    rw [content_append_lineFeed, content_append_of_ends _ lost,
      content_of_getLast? kept]
  rw [readLine?_of_ne_nil (by simp),
    takeSegment_of_lineFeed [] absentToo nearEnough, List.reverse_nil,
    List.nil_append, ofSegment, whole]
  simp only [Nat.not_lt.2 fits, ↓reduceIte]

/-- Bytes that fit and end with content are read up to the line feed behind them. -/
theorem readLine?_of_bytes
    {bytes : List UInt8}
    (absent : lineFeed ∉ bytes)
    (kept : ∀ byte, bytes.getLast? = some byte → endsLine byte = false)
    (fits : bytes.length ≤ lineLimit)
    (rest : List UInt8) :
    readLine? (bytes ++ lineFeed :: rest) =
      some (.line (Text.decode bytes), rest) := by
  have near : bytes.length + ([] : List UInt8).length < segmentLimit :=
    Nat.lt_of_le_of_lt fits (by decide)
  have read :=
    readLine?_of_returns_lineFeed absent kept fits (by simp) near rest
  rwa [List.append_nil] at read

section Lines

variable {text : String} (rest : List UInt8)

theorem IsLine.lineFeed_not_mem (isLine : IsLine text) :
    lineFeed ∉ Text.encode text := by
  intro member
  exact isLine.1 ((@Text.mem_encode_iff '\n' (by decide) text).1 member)

/-- A text that fits is read back from its line. -/
theorem readLine?_sendLine
    (isLine : IsLine text)
    (fits : Fits text) :
    readLine? (sendLine text ++ rest) = some (.line text, rest) := by
  have split :
      sendLine text ++ rest = Text.encode text ++ lineFeed :: rest := by
    simp [sendLine]
  rw [split,
    readLine?_of_bytes isLine.lineFeed_not_mem
      (fun _ => isLine.endsLine_getLast?) fits,
    Text.decode_encode]

/-- A text that does not fit is overlong, wherever its segment ends. -/
theorem readLine?_sendLine_of_long
    (oneLine : IsOneLine text)
    (long : ¬ Fits text) :
    ∃ behind,
      readLine? (sendLine text ++ rest) = some (.overlong, behind) := by
  have split :
      sendLine text ++ rest = Text.encode text ++ lineFeed :: rest := by
    simp [sendLine]
  refine ⟨(takeSegment [] segmentLimit (sendLine text ++ rest)).2, ?_⟩
  rw [readLine?_of_ne_nil (by simp [sendLine]), split]
  have tooLong : lineLimit < (Text.encode text).length :=
    Nat.lt_of_not_le long
  by_cases near : (Text.encode text).length < segmentLimit
  · have bytes :
        content (Text.encode text ++ [lineFeed]) = Text.encode text := by
      rw [content_append_lineFeed]
      exact content_of_oneLine fun _ => oneLine.endsLine_eq_false
    rw [takeSegment_of_lineFeed [] oneLine.isLine.lineFeed_not_mem near rest]
    simp [ofSegment, bytes, tooLong]
  · have far : segmentLimit ≤ (Text.encode text).length :=
      Nat.le_of_not_lt near
    have segment :=
      takeSegment_of_long [] oneLine.isLine.lineFeed_not_mem far (lineFeed :: rest)
    have bytes :
        content ((Text.encode text).take segmentLimit) =
          (Text.encode text).take segmentLimit :=
      content_of_oneLine fun _ member =>
        oneLine.endsLine_eq_false (List.mem_of_mem_take member)
    have length :
        ((Text.encode text).take segmentLimit).length = segmentLimit :=
      List.length_take_of_le far
    have exceeds : lineLimit < segmentLimit := by
      decide
    rw [List.reverse_nil, List.nil_append] at segment
    rw [segment]
    simp [ofSegment, bytes, length, exceeds]

/-- A peer that gets one line that fits reads exactly that line. -/
theorem incoming_sendLine
    (isLine : IsLine text)
    (fits : Fits text) :
    incoming (sendLine text) = [.line text] := by
  have read := readLine?_sendLine [] isLine fits
  rw [List.append_nil] at read
  simpa using incoming_of_readLine? read

/-- A peer that gets lines that fit reads exactly these lines. -/
theorem incoming_flatMap_sendLine
    {texts : List String}
    (ready : ∀ text ∈ texts, IsLine text ∧ Fits text) :
    incoming (texts.flatMap sendLine) = texts.map .line := by
  induction texts with
  | nil =>
      simp
  | cons first others inductionHypothesis =>
      obtain ⟨isLine, fits⟩ := ready first List.mem_cons_self
      rw [List.flatMap_cons, List.map_cons,
        incoming_of_readLine? (readLine?_sendLine _ isLine fits),
        inductionHypothesis fun text member =>
          ready text (List.mem_cons_of_mem _ member)]

/-- A peer that gets an overlong line is told so first. -/
theorem incoming_sendLine_of_long
    (oneLine : IsOneLine text)
    (long : ¬ Fits text) :
    ∃ others, incoming (sendLine text) = .overlong :: others := by
  obtain ⟨behind, read⟩ := readLine?_sendLine_of_long [] oneLine long
  rw [List.append_nil] at read
  exact ⟨incoming behind, incoming_of_readLine? read⟩

end Lines

section Sending

/-- The bytes of joined texts are those of the texts. -/
theorem encode_join (texts : List String) :
    Text.encode (String.join texts) = texts.flatMap Text.encode := by
  induction texts with
  | nil =>
      rfl
  | cons first others inductionHypothesis =>
      rw [String.join_cons, Text.encode_append, inductionHypothesis,
        List.flatMap_cons]

/-- A reply is sent line by line. -/
theorem encode_wire (reply : Reply) :
    Text.encode reply.wire = reply.lines.flatMap sendLine := by
  have feed (line : String) : Text.encode (line ++ "\n") = sendLine line := by
    rw [Text.encode_append]
    rfl
  rw [Reply.wire, encode_join, List.flatMap_map]
  simp only [feed]

/-- Replies are sent line by line. -/
theorem encode_wireText (replies : List Reply) :
    Text.encode (wireText replies) =
      (replies.flatMap Reply.lines).flatMap sendLine := by
  rw [wireText, encode_join, List.flatMap_map, List.flatMap_assoc]
  simp only [encode_wire]

/-- A reply of one line is sent as that line. -/
theorem encode_wireText_line (text : String) :
    Text.encode (wireText [Reply.line text]) = sendLine text := by
  simp [encode_wireText, Reply.lines, Reply.line]

end Sending

end Postroom.Wire
