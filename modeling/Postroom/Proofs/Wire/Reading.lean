import Postroom.Proofs.Text.Decoding
import Postroom.Proofs.Wire.Segments

namespace Postroom.Wire

/-!
# Lines that were read can be written again

Whatever the bytes of a stream, a line that was read has no line feed and no
carriage return at its end, so it can be written on a line of its own. It has
no more characters than a line may have bytes. It has no more bytes than that
either when the stream is the bytes of a text; otherwise the characters that
stand for bytes of no text can make it longer than it was.
-/

section Content

variable (bytes : List UInt8)

/-- What ends a line follows its content. -/
theorem content_append_ending :
    ∃ ending,
      bytes = content bytes ++ ending ∧
        ∀ byte ∈ ending, endsLine byte = true := by
  refine ⟨(bytes.reverse.takeWhile endsLine).reverse, ?_, ?_⟩
  · rw [content, ← List.reverse_append, List.takeWhile_append_dropWhile,
      List.reverse_reverse]
  · intro byte member
    exact List.all_eq_true.1 List.all_takeWhile byte (List.mem_reverse.1 member)

variable {bytes}

theorem mem_of_mem_content
    {byte : UInt8}
    (member : byte ∈ content bytes) :
    byte ∈ bytes := by
  obtain ⟨ending, whole, _⟩ := content_append_ending bytes
  rw [whole]
  exact List.mem_append_left ending member

/-- Content does not end with what ends a line. -/
theorem endsLine_getLast?_content
    {last : UInt8}
    (isLast : (content bytes).getLast? = some last) :
    endsLine last = false := by
  rw [content, List.getLast?_reverse] at isLast
  have stopped := List.head?_dropWhile_not endsLine bytes.reverse
  rw [isLast] at stopped
  simpa using stopped

end Content

/-- A segment ends with a line feed, with the stream, or with the room for it. -/
theorem takeSegment_cases
    (room : Nat)
    (stream : List UInt8) :
    let (segment, rest) := takeSegment [] room stream
    ∃ bytes,
      lineFeed ∉ bytes ∧
        (segment = bytes ++ [lineFeed] ∨
          segment = bytes ∧ (rest = [] ∨ bytes.length = room)) := by
  have cut
      {bytes : List UInt8}
      (absent : lineFeed ∉ bytes)
      (far : room ≤ bytes.length) :
      lineFeed ∉ bytes.take room ∧ (bytes.take room).length = room :=
    ⟨fun member => absent (List.mem_of_mem_take member),
      List.length_take_of_le far⟩
  by_cases ends : lineFeed ∈ stream
  · obtain ⟨bytes, rest, rfl, absent⟩ := List.eq_append_cons_of_mem ends
    by_cases near : bytes.length < room
    · rw [takeSegment_of_lineFeed [] absent near rest]
      exact ⟨bytes, absent, Or.inl rfl⟩
    · have far := Nat.le_of_not_lt near
      obtain ⟨absentToo, full⟩ := cut absent far
      rw [takeSegment_of_long [] absent far]
      exact ⟨bytes.take room, absentToo, Or.inr ⟨rfl, Or.inr full⟩⟩
  · by_cases near : stream.length ≤ room
    · rw [takeSegment_of_short [] ends near]
      exact ⟨stream, ends, Or.inr ⟨rfl, Or.inl rfl⟩⟩
    · have far := Nat.le_of_not_le near
      obtain ⟨absent, full⟩ := cut ends far
      have taken := takeSegment_of_long [] ends far []
      rw [List.append_nil] at taken
      rw [taken]
      exact ⟨stream.take room, absent, Or.inr ⟨rfl, Or.inr full⟩⟩

section Lines

variable
  {stream rest : List UInt8}
  {text : String}
  (read : readLine? stream = some (.line text, rest))

include read

/-- A line that is read is what one segment holds, and the segment ends somewhere. -/
theorem segment_of_readLine? :
    ∃ segment,
      stream = segment ++ rest ∧
        text = Text.decode (content segment) ∧
        (content segment).length ≤ lineLimit ∧
        lineFeed ∉ content segment ∧
        (rest = [] ∨
          ∃ front last, segment = front ++ [last] ∧ endsLine last = true) := by
  obtain ⟨_, accepted, left⟩ := readLine?_eq_some_iff.1 read
  have whole := takeSegment_append [] segmentLimit stream
  obtain ⟨bytes, absent, stops⟩ := takeSegment_cases segmentLimit stream
  generalize takeSegment [] segmentLimit stream = taken at *
  obtain ⟨segment, behind⟩ := taken
  simp only at accepted left whole stops
  subst left
  have fits : (content segment).length ≤ lineLimit :=
    Nat.not_lt.1 fun long => by
      simp [ofSegment, long] at accepted
  have decoded : text = Text.decode (content segment) := by
    simpa [ofSegment, Nat.not_lt.2 fits] using accepted.symm
  have noFeed : lineFeed ∉ content segment := by
    intro member
    rcases stops with rfl | ⟨rfl, _⟩
    · rw [content_append_lineFeed] at member
      exact absent (mem_of_mem_content member)
    · exact absent (mem_of_mem_content member)
  refine ⟨segment, whole.symm, decoded, fits, noFeed, ?_⟩
  rcases stops with rfl | ⟨rfl, ended | full⟩
  · exact Or.inr ⟨bytes, lineFeed, rfl, by decide⟩
  · exact Or.inl ended
  · -- More bytes were taken than are content, so the last one ends the line.
    obtain ⟨ending, split, ends⟩ := content_append_ending segment
    rcases List.eq_nil_or_concat ending with rfl | ⟨front, last, rfl⟩
    · rw [List.append_nil] at split
      rw [← split, full] at fits
      exact absurd fits (by decide)
    · refine Or.inr ⟨content segment ++ front, last, ?_, ends last (by simp)⟩
      simpa using split

/-- A line that is read can be written on a line of its own. -/
theorem isLine_of_readLine? : IsLine text := by
  obtain ⟨segment, _, rfl, _, noFeed, _⟩ := segment_of_readLine? read
  constructor
  · intro member
    rw [Text.decode, String.toList_ofList] at member
    exact
      noFeed (@Text.mem_of_mem_decodeCharacters '\n' (by decide) _ member)
  · intro last
    rw [Text.decode, String.toList_ofList] at last
    have isLast :=
      @Text.getLast?_of_decodeCharacters '\r' (by decide) _ last
    exact absurd (endsLine_getLast?_content isLast) (by decide)

/-- A line that is read has no more characters than a line may have bytes. -/
theorem length_le_of_readLine? : text.toList.length ≤ lineLimit := by
  obtain ⟨segment, _, rfl, fits, _⟩ := segment_of_readLine? read
  rw [Text.decode, String.toList_ofList]
  exact Nat.le_trans (Text.length_decodeCharacters_le _) fits

/-- A line that is read from the bytes of a text fits, and so does the rest. -/
theorem fits_of_readLine? (isText : Text.IsText stream) :
    Fits text ∧ Text.IsText rest := by
  obtain ⟨segment, rfl, rfl, fits, _, stops⟩ := segment_of_readLine? read
  have short {byte : UInt8} (ends : endsLine byte = true) : byte < 0x80 := by
    simp only [endsLine, Bool.or_eq_true, beq_iff_eq] at ends
    rcases ends with rfl | rfl <;> decide
  have parts : Text.IsText segment ∧ Text.IsText rest := by
    rcases stops with rfl | ⟨front, last, rfl, ends⟩
    · exact ⟨by simpa using isText, .nil⟩
    · rw [List.append_assoc] at isText
      obtain ⟨before, behind⟩ := isText.split (short ends)
      exact ⟨before.append (.ofShort (short ends)), behind⟩
  have kept : Text.IsText (content segment) := by
    obtain ⟨ending, whole, ends⟩ := content_append_ending segment
    cases ending with
    | nil =>
        rw [List.append_nil] at whole
        exact whole ▸ parts.1
    | cons first others =>
        rw [whole] at parts
        exact (parts.1.split (short (ends first List.mem_cons_self))).1
  refine ⟨?_, parts.2⟩
  rw [Fits, kept.encode_decode]
  exact fits

end Lines

/-- Reading to the end proves what one segment more never breaks. -/
theorem reading_induction
    {motive : List UInt8 → Prop}
    (empty : motive [])
    (segment :
      ∀ stream message rest,
        readLine? stream = some (message, rest) →
        motive rest →
        motive stream)
    (stream : List UInt8) :
    motive stream := by
  induction size : stream.length using Nat.strongRecOn generalizing stream with
  | ind length inductionHypothesis =>
      cases stream with
      | nil =>
          exact empty
      | cons byte rest =>
          have shorter := length_takeSegment_lt byte rest
          rw [size] at shorter
          exact segment _ _ _ rfl (inductionHypothesis _ shorter _ rfl)

/-- Whatever comes in was read from some rest of the stream. -/
theorem exists_readLine?_of_mem_incoming
    {stream : List UInt8}
    {message : Incoming}
    (member : message ∈ incoming stream) :
    ∃ left later, readLine? left = some (message, later) := by
  induction stream using reading_induction with
  | empty =>
      simp at member
  | segment stream first rest read inductionHypothesis =>
      rw [incoming_of_readLine? read, List.mem_cons] at member
      rcases member with rfl | behind
      · exact ⟨stream, rest, read⟩
      · exact inductionHypothesis behind

/-- What comes in up to an overlong line comes in. -/
theorem mem_of_mem_untilOverlong
    {messages : List Incoming}
    {message : Incoming}
    (member : message ∈ untilOverlong messages) :
    message ∈ messages := by
  induction messages with
  | nil =>
      exact member
  | cons first rest inductionHypothesis =>
      cases first with
      | overlong =>
          rw [untilOverlong, List.mem_singleton] at member
          exact member ▸ List.mem_cons_self
      | line text =>
          rw [untilOverlong, List.mem_cons] at member
          exact List.mem_cons.2 (member.imp_right inductionHypothesis)

/-- When a client sends the bytes of a text, its lines up to an overlong one fit. -/
theorem fits_of_mem_untilOverlong
    {stream : List UInt8}
    (isText : Text.IsText stream)
    {text : String}
    (member : .line text ∈ untilOverlong (incoming stream)) :
    Fits text := by
  induction stream using reading_induction with
  | empty =>
      simp [untilOverlong] at member
  | segment stream first rest read inductionHypothesis =>
      rw [incoming_of_readLine? read] at member
      cases first with
      | overlong =>
          simp [untilOverlong] at member
      | line earlier =>
          obtain ⟨fits, behind⟩ := fits_of_readLine? read isText
          rw [untilOverlong, List.mem_cons] at member
          rcases member with same | later
          · cases same
            exact fits
          · exact inductionHypothesis behind later

end Postroom.Wire
