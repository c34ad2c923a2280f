import Postroom.Proofs.Wire.Framing

namespace Postroom.Wire

/-!
# Segments and the lines that are read from them

A stream falls into segments, each with the line feed that ends it. A reader
reads segment by segment, except where it stops short in one: it takes only so
many bytes, and when two carriage returns are the last of them, it drops both
and is left with a line that is not too long, although the segment goes on. The
rest of such a severed segment is read as another line. The main statement says
that this is the only way in which the lines before an overlong one differ from
the segments.
-/

/-- The bytes up to and including each line feed, and the bytes behind the last one. -/
def segments : List UInt8 → List (List UInt8)
  | [] =>
      []
  | byte :: rest =>
      if byte = lineFeed then
        [byte] :: segments rest
      else
        match segments rest with
        | [] =>
            [[byte]]
        | first :: others =>
            (byte :: first) :: others

/-- A segment goes on behind two carriage returns, the last bytes that are taken. -/
def IsSevered (segment : List UInt8) : Prop :=
  segmentLimit < segment.length ∧
    segment[lineLimit]? = some carriageReturn ∧
    segment[lineLimit + 1]? = some carriageReturn

instance (segment : List UInt8) : Decidable (IsSevered segment) :=
  inferInstanceAs (Decidable (_ ∧ _ ∧ _))

/-- What comes in up to the first overlong line. -/
def untilOverlong : List Incoming → List Incoming
  | [] =>
      []
  | .overlong :: _ =>
      [.overlong]
  | .line text :: rest =>
      .line text :: untilOverlong rest

/-- The bytes that are left of a stream when some lines were read, none of them overlong. -/
inductive Reaches : List UInt8 → List UInt8 → Prop where
  | here (stream : List UInt8) :
      Reaches stream stream
  | behind
      {stream rest later : List UInt8}
      {text : String}
      (read : readLine? stream = some (.line text, rest))
      (reaches : Reaches rest later) :
      Reaches stream later

/-- Every line before an overlong one is read as far as a line feed or the end. -/
def ReadsWhole (stream : List UInt8) : Prop :=
  ∀ left text later,
    Reaches stream left →
    readLine? left = some (.line text, later) →
    later = [] ∨ ∃ taken, left = taken ++ lineFeed :: later

/-- No segment up to the first overlong one is severed. -/
def IsUnsevered (pieces : List (List UInt8)) : Prop :=
  ∀ earlier segment later,
    pieces = earlier ++ segment :: later →
    (∀ piece ∈ earlier, ofSegment piece ≠ .overlong) →
    ¬ IsSevered segment

section Segments

/-- Bytes without a line feed are one segment. -/
theorem segments_of_lineFeed_not_mem
    {bytes : List UInt8}
    (absent : lineFeed ∉ bytes)
    (inhabited : bytes ≠ []) :
    segments bytes = [bytes] := by
  induction bytes with
  | nil =>
      exact absurd rfl inhabited
  | cons first rest inductionHypothesis =>
      simp only [List.mem_cons, not_or] at absent
      have notFeed : ¬ first = lineFeed :=
        fun same => absent.1 same.symm
      by_cases last : rest = []
      · simp [segments, notFeed, last]
      · simp [segments, notFeed, inductionHypothesis absent.2 last]

/-- A line feed ends a segment. -/
theorem segments_append_lineFeed
    {bytes : List UInt8}
    (absent : lineFeed ∉ bytes)
    (rest : List UInt8) :
    segments (bytes ++ lineFeed :: rest) =
      (bytes ++ [lineFeed]) :: segments rest := by
  induction bytes with
  | nil =>
      simp [segments]
  | cons first others inductionHypothesis =>
      simp only [List.mem_cons, not_or] at absent
      have notFeed : ¬ first = lineFeed :=
        fun same => absent.1 same.symm
      simp [segments, notFeed, inductionHypothesis absent.2]

/-- The segments of a stream are the stream. -/
@[simp] theorem flatten_segments (stream : List UInt8) :
    (segments stream).flatten = stream := by
  induction stream with
  | nil =>
      rfl
  | cons byte rest inductionHypothesis =>
      unfold segments
      split
      · simp [inductionHypothesis]
      · cases shape : segments rest with
        | nil =>
            simpa [shape] using inductionHypothesis
        | cons first others =>
            simpa [shape] using inductionHypothesis

/-- A stream has a first segment with a line feed, or it has no line feed at all. -/
theorem segments_eq_cons
    {stream segment : List UInt8}
    {others : List (List UInt8)}
    (shape : segments stream = segment :: others) :
    segments others.flatten = others ∧
      ((∃ bytes,
          lineFeed ∉ bytes ∧ segment = bytes ++ [lineFeed] ∧
            stream = bytes ++ lineFeed :: others.flatten) ∨
        lineFeed ∉ stream ∧ segment = stream ∧ others = []) := by
  by_cases ends : lineFeed ∈ stream
  · obtain ⟨bytes, rest, rfl, absent⟩ := List.eq_append_cons_of_mem ends
    rw [segments_append_lineFeed absent, List.cons.injEq] at shape
    obtain ⟨rfl, rfl⟩ := shape
    rw [flatten_segments]
    exact ⟨rfl, Or.inl ⟨bytes, absent, rfl, rfl⟩⟩
  · have inhabited : stream ≠ [] := by
      rintro rfl
      cases shape
    rw [segments_of_lineFeed_not_mem ends inhabited, List.cons.injEq] at shape
    obtain ⟨rfl, rfl⟩ := shape
    exact ⟨rfl, Or.inr ⟨ends, rfl, rfl⟩⟩

end Segments

section Lengths

variable {segment : List UInt8}

/-- The last bytes that are taken of a segment that goes on behind them. -/
theorem take_segmentLimit
    (long : segmentLimit < segment.length) :
    ∃ last lastButOne,
      segment[lineLimit]? = some lastButOne ∧
        segment[lineLimit + 1]? = some last ∧
        segment.take segmentLimit =
          segment.take lineLimit ++ [lastButOne, last] := by
  have beforeLast : lineLimit < segment.length :=
    Nat.lt_of_succ_lt (Nat.lt_of_succ_lt long)
  have beforeEnd : lineLimit + 1 < segment.length :=
    Nat.lt_of_succ_lt long
  refine
    ⟨segment[lineLimit + 1], segment[lineLimit],
      List.getElem?_eq_getElem beforeLast,
      List.getElem?_eq_getElem beforeEnd, ?_⟩
  rw [segmentLimit, List.take_add_one, List.take_add_one,
    List.getElem?_eq_getElem beforeLast, List.getElem?_eq_getElem beforeEnd,
    List.append_assoc]
  rfl

/-- What is taken of a severed segment is not too long. -/
theorem ofSegment_of_severed (severed : IsSevered segment) :
    ofSegment (segment.take segmentLimit) =
      .line (Text.decode (content (segment.take lineLimit))) := by
  obtain ⟨long, lastButOneReturns, lastReturns⟩ := severed
  obtain ⟨last, lastButOne, isLastButOne, isLast, taken⟩ :=
    take_segmentLimit long
  rw [isLastButOne, Option.some.injEq] at lastButOneReturns
  rw [isLast, Option.some.injEq] at lastReturns
  subst lastButOneReturns lastReturns
  have dropped :
      content (segment.take segmentLimit) =
        content (segment.take lineLimit) := by
    rw [taken]
    exact content_append_of_ends _ (by decide)
  have fits : ¬ lineLimit < (content (segment.take lineLimit)).length :=
    Nat.not_lt.2 <|
      Nat.le_trans (length_content_le _) (List.length_take_le _ _)
  simp only [ofSegment, dropped, fits, ↓reduceIte]

/-- Otherwise so much is content that no end of the segment makes up for it. -/
theorem ofSegment_of_long
    (long : segmentLimit < segment.length)
    (absent : lineFeed ∉ segment.take segmentLimit)
    (unsevered : ¬ IsSevered segment)
    (behind : List UInt8) :
    ofSegment (segment.take segmentLimit ++ behind) = .overlong := by
  obtain ⟨last, lastButOne, isLastButOne, isLast, taken⟩ :=
    take_segmentLimit long
  have front : (segment.take lineLimit).length = lineLimit :=
    List.length_take_of_le (by unfold segmentLimit at long; omega)
  rw [taken] at absent ⊢
  simp only [List.mem_append, List.mem_cons, List.not_mem_nil, or_false,
    not_or] at absent
  have returns
      {byte : UInt8}
      (notFeed : ¬ lineFeed = byte)
      (ends : endsLine byte = true) :
      byte = carriageReturn := by
    simpa [endsLine, Ne.symm notFeed] using ends
  have much :
      lineLimit <
        (content
          (segment.take lineLimit ++ [lastButOne, last] ++ behind)).length := by
    cases lastEnds : endsLine last with
    | false =>
        have enough :=
          length_lt_length_content (segment.take lineLimit ++ [lastButOne])
            lastEnds behind
        simp only [List.length_append, front, List.append_assoc,
          List.cons_append, List.nil_append] at enough ⊢
        exact Nat.lt_of_succ_lt enough
    | true =>
        cases lastButOneEnds : endsLine lastButOne with
        | false =>
            have enough :=
              length_lt_length_content (segment.take lineLimit)
                lastButOneEnds (last :: behind)
            simpa [front] using enough
        | true =>
            have lastReturns := returns absent.2.2 lastEnds
            have lastButOneReturns := returns absent.2.1 lastButOneEnds
            rw [lastReturns] at isLast
            rw [lastButOneReturns] at isLastButOne
            exact absurd ⟨long, isLastButOne, isLast⟩ unsevered
  simp only [ofSegment, much, ↓reduceIte]

end Lengths

section Reading

variable
  {stream segment : List UInt8}
  {others : List (List UInt8)}
  (first : segments stream = segment :: others)

include first

theorem ne_nil_of_segments : stream ≠ [] := by
  rintro rfl
  cases first

/-- A segment that is not too long to be taken is read as a whole. -/
theorem readLine?_of_short (short : segment.length ≤ segmentLimit) :
    readLine? stream = some (ofSegment segment, others.flatten) := by
  rw [readLine?_of_ne_nil (ne_nil_of_segments first)]
  obtain ⟨_, ⟨bytes, absent, rfl, rfl⟩ | ⟨absent, rfl, rfl⟩⟩ :=
    segments_eq_cons first
  · have near : bytes.length < segmentLimit := by
      simpa [Nat.succ_le_iff] using short
    rw [takeSegment_of_lineFeed [] absent near]
    rfl
  · rw [takeSegment_of_short [] absent short]
    rfl

/-- Of a segment that is too long, as much is read as is taken at once. -/
theorem readLine?_of_long (long : segmentLimit < segment.length) :
    lineFeed ∉ segment.take segmentLimit ∧
      readLine? stream =
        some
          (ofSegment (segment.take segmentLimit),
            segment.drop segmentLimit ++ others.flatten) := by
  rw [readLine?_of_ne_nil (ne_nil_of_segments first)]
  obtain ⟨_, ⟨bytes, absent, rfl, rfl⟩ | ⟨absent, rfl, rfl⟩⟩ :=
    segments_eq_cons first
  · have far : segmentLimit ≤ bytes.length := by
      simpa [Nat.lt_succ_iff] using long
    rw [takeSegment_of_long [] absent far,
      List.take_append_of_le_length far, List.drop_append_of_le_length far]
    exact ⟨fun member => absent (List.mem_of_mem_take member), by simp⟩
  · have taken :=
      takeSegment_of_long [] absent (Nat.le_of_lt long) []
    rw [List.append_nil] at taken
    rw [taken]
    exact ⟨fun member => absent (List.mem_of_mem_take member), rfl⟩

/-- A segment is read as a whole, or it is overlong, unless it is severed. -/
theorem readLine?_of_unsevered (unsevered : ¬ IsSevered segment) :
    ∃ later,
      readLine? stream = some (ofSegment segment, later) ∧
        (ofSegment segment = .overlong ∨ later = others.flatten) := by
  by_cases short : segment.length ≤ segmentLimit
  · exact ⟨_, readLine?_of_short first short, Or.inr rfl⟩
  · have long : segmentLimit < segment.length :=
      Nat.lt_of_not_le short
    obtain ⟨absent, read⟩ := readLine?_of_long first long
    have refused := ofSegment_of_long long absent unsevered
    have taken := refused []
    have whole := refused (segment.drop segmentLimit)
    rw [List.append_nil] at taken
    rw [List.take_append_drop] at whole
    rw [taken, ← whole] at read
    exact ⟨_, read, Or.inl whole⟩

/-- A first segment ends with a line feed, or with the stream. -/
theorem ended_of_segments :
    others.flatten = [] ∨
      ∃ taken, stream = taken ++ lineFeed :: others.flatten := by
  obtain ⟨_, ⟨bytes, _, _, whole⟩ | ⟨_, _, rfl⟩⟩ := segments_eq_cons first
  · exact Or.inr ⟨bytes, whole⟩
  · exact Or.inl rfl

/-- A severed segment is not read as far as its end. -/
theorem not_readsWhole_of_severed (severed : IsSevered segment) :
    ¬ ReadsWhole stream := by
  obtain ⟨absent, read⟩ := readLine?_of_long first severed.1
  rw [ofSegment_of_severed severed] at read
  intro whole
  rcases whole stream _ _ (.here stream) read with ended | ⟨taken, split⟩
  · have long := severed.1
    rw [List.append_eq_nil_iff, List.drop_eq_nil_iff] at ended
    omega
  · have rejoined :
        segment.take segmentLimit ++
            (segment.drop segmentLimit ++ others.flatten) =
          taken ++ [lineFeed] ++
            (segment.drop segmentLimit ++ others.flatten) := by
      rw [← List.append_assoc, List.take_append_drop, ← List.flatten_cons,
        ← first, flatten_segments]
      simpa using split
    apply absent
    rw [List.append_cancel_right rejoined]
    simp

end Reading

section Steps

variable
  {stream later : List UInt8}

/-- A stream is read whole if nothing is, or if its first line and then the rest are. -/
theorem readsWhole_iff_of_line
    {text : String}
    (read : readLine? stream = some (.line text, later)) :
    ReadsWhole stream ↔
      (later = [] ∨ ∃ taken, stream = taken ++ lineFeed :: later) ∧
        ReadsWhole later := by
  constructor
  · intro whole
    exact
      ⟨whole stream text later (.here stream) read,
        fun left line behind reaches =>
          whole left line behind (.behind read reaches)⟩
  · rintro ⟨first, rest⟩ left line behind reaches readLine
    cases reaches with
    | here =>
        cases read.symm.trans readLine
        exact first
    | behind readFirst reaches =>
        cases read.symm.trans readFirst
        exact rest left line behind reaches readLine

/-- Nothing is read whole or not behind an overlong line. -/
theorem readsWhole_of_overlong
    (read : readLine? stream = some (.overlong, later)) :
    ReadsWhole stream := by
  intro left line behind reaches readLine
  cases reaches with
  | here =>
      cases read.symm.trans readLine
  | behind readFirst reaches =>
      cases read.symm.trans readFirst

variable
  {segment : List UInt8}
  {others : List (List UInt8)}

theorem isUnsevered_cons_iff_of_line
    {text : String}
    (delivered : ofSegment segment = .line text) :
    IsUnsevered (segment :: others) ↔
      ¬ IsSevered segment ∧ IsUnsevered others := by
  constructor
  · intro unsevered
    refine ⟨unsevered [] segment others rfl (by simp), ?_⟩
    rintro earlier piece behind rfl deliveredToo
    refine unsevered (segment :: earlier) piece behind rfl ?_
    simpa [delivered] using deliveredToo
  · rintro ⟨first, rest⟩ earlier piece behind shape deliveredToo
    cases earlier with
    | nil =>
        cases shape
        exact first
    | cons head earlier =>
        cases shape
        exact rest earlier piece behind rfl fun before member =>
          deliveredToo before (List.mem_cons_of_mem _ member)

theorem isUnsevered_cons_of_overlong
    (refused : ofSegment segment = .overlong)
    (unsevered : ¬ IsSevered segment) :
    IsUnsevered (segment :: others) := by
  rintro earlier piece behind shape delivered
  cases earlier with
  | nil =>
      cases shape
      exact unsevered
  | cons head earlier =>
      cases shape
      exact absurd refused (delivered _ List.mem_cons_self)

end Steps

/--
Up to the first overlong line, what is read is the segments one by one, each
read as far as its line feed or the end of the stream and reported as overlong
when it cannot be delivered, exactly when none of these segments is severed.
-/
theorem reads_segments_iff (stream : List UInt8) :
    (ReadsWhole stream ∧
        untilOverlong (incoming stream) =
          untilOverlong ((segments stream).map ofSegment)) ↔
      IsUnsevered (segments stream) := by
  generalize shape : segments stream = pieces
  induction pieces generalizing stream with
  | nil =>
      have empty : stream = [] := by
        rw [← flatten_segments stream, shape]
        rfl
      subst empty
      refine iff_of_true ⟨?_, by simp⟩ (by simp [IsUnsevered])
      intro left line behind reaches readLine
      cases reaches with
      | here =>
          cases readLine
      | behind readFirst reaches =>
          cases readFirst
  | cons segment others inductionHypothesis =>
      obtain ⟨rest, -⟩ := segments_eq_cons shape
      have onward := inductionHypothesis others.flatten rest
      by_cases severed : IsSevered segment
      · refine iff_of_false ?_ ?_
        · exact fun both => not_readsWhole_of_severed shape severed both.1
        · exact fun unsevered =>
            unsevered [] segment others rfl (by simp) severed
      · obtain ⟨later, read, known⟩ :=
          readLine?_of_unsevered shape severed
        cases delivered : ofSegment segment with
        | overlong =>
            rw [delivered] at read
            refine iff_of_true ⟨readsWhole_of_overlong read, ?_⟩
              (isUnsevered_cons_of_overlong delivered severed)
            simp [incoming_of_readLine? read, delivered, untilOverlong]
        | line text =>
            obtain rfl : later = others.flatten :=
              known.resolve_left (by simp [delivered])
            rw [delivered] at read
            rw [readsWhole_iff_of_line read, incoming_of_readLine? read,
              isUnsevered_cons_iff_of_line delivered, ← onward]
            simp only [List.map_cons, delivered, untilOverlong,
              List.cons.injEq, true_and, ended_of_segments shape, severed,
              not_false_eq_true]

/-- Two carriage returns end a line that has as many bytes as a line may have. -/
theorem readLine?_of_returns
    {text : String}
    (oneLine : IsOneLine text)
    (full : (Text.encode text).length = lineLimit)
    (rest : List UInt8) :
    readLine? (Text.encode text ++ carriageReturn :: carriageReturn :: rest) =
      some (.line text, rest) := by
  have absent :
      lineFeed ∉ Text.encode text ++ [carriageReturn, carriageReturn] := by
    rw [List.mem_append]
    rintro (member | member)
    · exact oneLine.isLine.lineFeed_not_mem member
    · exact absurd member (by decide)
  have far :
      (Text.encode text ++ [carriageReturn, carriageReturn]).length =
        segmentLimit := by
    simp [full, segmentLimit]
  have taken := takeSegment_of_long [] absent (Nat.le_of_eq far.symm) rest
  rw [← far, List.take_length, List.drop_length] at taken
  have bytes :
      content (Text.encode text ++ [carriageReturn, carriageReturn]) =
        Text.encode text := by
    rw [content_append_of_ends _ (by decide)]
    exact content_of_oneLine fun _ => oneLine.endsLine_eq_false
  have split :
      Text.encode text ++ carriageReturn :: carriageReturn :: rest =
        Text.encode text ++ [carriageReturn, carriageReturn] ++ rest := by
    simp
  rw [split, readLine?_of_ne_nil (by simp), ← far, taken]
  simp [ofSegment, bytes, full]

/-- The end of a client's data is read as the next command. -/
theorem data_runs_on_as_quit :
    let text :=
      "data " ++ String.ofList (List.replicate 65531 'x')
    let severed :=
      Text.encode text ++ carriageReturn :: carriageReturn :: sendLine "quit"
    let stream :=
      sendLine "begin" ++ severed
    segments stream = [sendLine "begin", severed] ∧
      incoming stream = [.line "begin", .line text, .line "quit"] := by
  intro text severed stream
  have oneLine : IsOneLine text :=
    isOneLine_append.2
      ⟨by decide, isOneLine_replicate (by decide) (by decide) _⟩
  have full : (Text.encode text).length = lineLimit := by
    rw [Text.encode_append, List.length_append, Text.length_encode_replicate]
    rfl
  have absent :
      lineFeed ∉
        Text.encode text ++
          carriageReturn :: carriageReturn :: Text.encode "quit" := by
    rw [List.mem_append]
    rintro (member | member)
    · exact oneLine.isLine.lineFeed_not_mem member
    · exact absurd member (by decide)
  constructor
  · have first :=
      @segments_append_lineFeed (Text.encode "begin") (by decide) severed
    have second := segments_append_lineFeed absent []
    have whole :
        severed =
          Text.encode text ++
            carriageReturn :: carriageReturn :: Text.encode "quit" ++
              [lineFeed] := by
      simp [severed, sendLine]
    rw [← whole] at second
    have front : stream = Text.encode "begin" ++ lineFeed :: severed := by
      simp [stream, sendLine]
    rw [front, first, second]
    rfl
  · have greeted :=
      @readLine?_sendLine "begin" severed (by decide) (by decide)
    have written := readLine?_of_returns oneLine full (sendLine "quit")
    rw [incoming_of_readLine? greeted, incoming_of_readLine? written,
      incoming_sendLine (by decide) (by decide)]

end Postroom.Wire
