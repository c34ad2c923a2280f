import Postroom.Proofs.Wire.Arrival

namespace Postroom.Wire

/-!
# Lines are read alike, whatever ends them

A sender may put a line feed behind each line, or a carriage return and a line
feed, and may leave the last line without either and close the connection. The
reader gives the texts back in order, one for each call, and then nothing. The
limits agree at the edge: the longest text leaves room for the longest ending.
-/

/-- What a sender puts behind the text of a line. -/
inductive Ending where
  | feed
  | returnAndFeed
  deriving Repr, DecidableEq

/-- What stands in front of the line feed. -/
def Ending.returns : Ending → List UInt8
  | .feed =>
      []
  | .returnAndFeed =>
      [carriageReturn]

/-- A line with the ending that its sender chose. -/
structure WrittenLine where
  text : String
  ending : Ending
  deriving Repr, DecidableEq

/-- A line on its way. -/
def WrittenLine.bytes (line : WrittenLine) : List UInt8 :=
  Text.encode line.text ++ line.ending.returns ++ [lineFeed]

/-- What a sender writes until it closes the connection. -/
structure Written where
  lines : List WrittenLine
  /-- The text behind the last ending, if there is one. -/
  unended : Option String
  deriving Repr, DecidableEq

namespace Written

/-- The texts that were written, in order. -/
def texts (written : Written) : List String :=
  written.lines.map WrittenLine.text ++ written.unended.toList

/-- Everything that was written. -/
def bytes (written : Written) : List UInt8 :=
  written.lines.flatMap WrittenLine.bytes ++
    (written.unended.map Text.encode).getD []

end Written

/-- A line that fits is read whole up to its ending, whatever stands behind it. -/
theorem readLine?_writtenLine
    {line : WrittenLine}
    (isLine : IsLine line.text)
    (fits : Fits line.text)
    (rest : List UInt8) :
    readLine? (line.bytes ++ rest) = some (.line line.text, rest) := by
  have areReturns : ∀ byte ∈ line.ending.returns, byte = carriageReturn := by
    cases line.ending <;> simp [Ending.returns]
  -- Two bytes beyond the limit are taken, as many as the longer ending has.
  have near :
      (Text.encode line.text).length + line.ending.returns.length <
        segmentLimit := by
    have few : line.ending.returns.length ≤ 1 := by
      cases line.ending <;> simp [Ending.returns]
    simp only [Fits] at fits
    simp only [segmentLimit]
    omega
  have read :=
    readLine?_of_returns_lineFeed isLine.lineFeed_not_mem
      (fun _ => isLine.endsLine_getLast?) fits areReturns near rest
  rw [Text.decode_encode] at read
  simpa [WrittenLine.bytes] using read

/-- A text without an ending is read whole at the end of the stream. -/
theorem readLine?_encode
    {text : String}
    (isLine : IsLine text)
    (fits : Fits text)
    (inhabited : text ≠ "") :
    readLine? (Text.encode text) = some (.line text, []) := by
  have someBytes : Text.encode text ≠ [] := by
    intro nothing
    apply inhabited
    rw [← Text.decode_encode text, nothing]
    exact Text.decode_encode ""
  have near : (Text.encode text).length ≤ segmentLimit :=
    Nat.le_trans fits (by decide)
  have kept := content_of_getLast? fun _ => isLine.endsLine_getLast?
  rw [readLine?_of_ne_nil someBytes,
    takeSegment_of_short [] isLine.lineFeed_not_mem near, List.reverse_nil,
    List.nil_append, ofSegment, kept, if_neg (Nat.not_lt.2 fits),
    Text.decode_encode]

/-- What comes in are the texts that were written. -/
theorem incoming_written
    {written : Written}
    (ready : ∀ text ∈ written.texts, IsLine text ∧ Fits text)
    (inhabited : written.unended ≠ some "") :
    incoming written.bytes = written.texts.map .line := by
  obtain ⟨lines, unended⟩ := written
  induction lines with
  | nil =>
      cases unended with
      | none =>
          simp [Written.bytes, Written.texts]
      | some text =>
          obtain ⟨isLine, fits⟩ := ready text (by simp [Written.texts])
          have someText : text ≠ "" := by
            simpa using inhabited
          have read := readLine?_encode isLine fits someText
          simpa [Written.bytes, Written.texts] using incoming_of_readLine? read
  | cons first others inductionHypothesis =>
      obtain ⟨isLine, fits⟩ := ready first.text (by simp [Written.texts])
      have behind :=
        inductionHypothesis
          (fun text member => ready text (List.mem_cons_of_mem _ member))
          inhabited
      have split :
          Written.bytes ⟨first :: others, unended⟩ =
            first.bytes ++ Written.bytes ⟨others, unended⟩ := by
        simp [Written.bytes]
      rw [split, incoming_of_readLine? (readLine?_writtenLine isLine fits _),
        behind]
      rfl

/--
Texts that break no line, do not end with a carriage return and have no more
bytes than a line may have are read back in order by as many calls, whichever
ending each of them has and whether or not the last has one, and every later
call finds nothing. Lines are sent with the shorter ending, alone and as the
lines of a reply.
-/
theorem calls_read_what_was_written
    (written : Written)
    (ready : ∀ text ∈ written.texts, IsLine text ∧ Fits text)
    (inhabited : written.unended ≠ some "") :
    (∀ number,
        readNth? number written.bytes =
          written.texts[number]?.map Incoming.line) ∧
      (∀ text, sendLine text = WrittenLine.bytes ⟨text, .feed⟩) ∧
      ∀ reply : Reply,
        Text.encode reply.wire =
          Written.bytes ⟨reply.lines.map (⟨·, .feed⟩), none⟩ := by
  have sent (text : String) :
      sendLine text = WrittenLine.bytes ⟨text, .feed⟩ := by
    simp [sendLine, WrittenLine.bytes, Ending.returns]
  refine ⟨?_, sent, ?_⟩
  · intro number
    rw [readNth?_eq_getElem?, incoming_written ready inhabited,
      List.getElem?_map]
  · intro reply
    simp only [encode_wire, Written.bytes, List.flatMap_map, ← sent,
      Option.map_none, Option.getD_none, List.append_nil]

/-- The longest line with the longer ending, an empty line and an unended one are read back. -/
theorem calls_read_the_longest_line :
    let longest := String.ofList (List.replicate lineLimit 'x')
    let written : Written :=
      ⟨[⟨longest, .returnAndFeed⟩, ⟨"", .feed⟩, ⟨"to\ra", .feed⟩], some longest⟩
    readNth? 0 written.bytes = some (.line longest) ∧
      readNth? 1 written.bytes = some (.line "") ∧
      readNth? 2 written.bytes = some (.line "to\ra") ∧
      readNth? 3 written.bytes = some (.line longest) ∧
      readNth? 4 written.bytes = none := by
  intro longest written
  have isLine : IsLine longest :=
    (isOneLine_replicate (by decide) (by decide) _).isLine
  have fits : Fits longest := by
    rw [Fits, Text.length_encode_replicate]
    exact Nat.le_of_eq (Nat.mul_one _)
  have ready : ∀ text ∈ written.texts, IsLine text ∧ Fits text := by
    simp only [written, Written.texts, List.map_cons, List.map_nil,
      Option.toList_some, List.cons_append, List.nil_append, List.mem_cons,
      List.not_mem_nil, or_false, forall_eq_or_imp, forall_eq]
    exact ⟨⟨isLine, fits⟩, by decide, by decide, isLine, fits⟩
  have inhabited : written.unended ≠ some "" := by
    intro same
    have length : longest.toList.length = lineLimit := by
      simp only [longest, String.toList_ofList, List.length_replicate]
    rw [Option.some.inj same] at length
    exact absurd length (by decide)
  obtain ⟨reads, -⟩ := calls_read_what_was_written written ready inhabited
  exact ⟨reads 0, reads 1, reads 2, reads 3, reads 4⟩

end Postroom.Wire
