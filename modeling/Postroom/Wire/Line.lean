import Postroom.Text.Utf8

namespace Postroom.Wire

/-!
# Lines on a connection

A stream of bytes is read line by line. A reader takes bytes up to a line
feed, up to the end of the stream, or up to a fixed number of bytes, whichever
comes first. From what it took it drops every carriage return and line feed at
the end; if too many bytes are left, it reports an overlong line, and goes on
behind the bytes it took when it is asked again.

The main statements say that reading splits the stream without loss and always
comes to its end.
-/

/-- The byte that ends a line. -/
def lineFeed : UInt8 :=
  10

/-- The byte that may stand in front of a line feed. -/
def carriageReturn : UInt8 :=
  13

/-- The longest line, in bytes, without what ends it. -/
def lineLimit : Nat :=
  65536

/-- The most bytes that are taken for one line. -/
def segmentLimit : Nat :=
  lineLimit + 2

/-- What one call of a reader gives. -/
inductive Incoming where
  | line (text : String)
  /-- More bytes than a line may have. -/
  | overlong
  deriving Repr, DecidableEq

/--
Take bytes up to and including a line feed, but no more than a given number.

The bytes that were taken before stand in front, last one first.
-/
def takeSegment
    (taken : List UInt8) :
    Nat →
    List UInt8 →
    List UInt8 × List UInt8
  | 0, rest =>
      (taken.reverse, rest)
  | _ + 1, [] =>
      (taken.reverse, [])
  | room + 1, byte :: rest =>
      if byte = lineFeed then
        ((byte :: taken).reverse, rest)
      else
        takeSegment (byte :: taken) room rest

/-- Whether a byte belongs to the end of a line. -/
def endsLine (byte : UInt8) : Bool :=
  byte == lineFeed || byte == carriageReturn

/-- The bytes of a segment without those that end a line. -/
def content (segment : List UInt8) : List UInt8 :=
  (segment.reverse.dropWhile endsLine).reverse

/-- What a reader makes of the bytes it took. -/
def ofSegment (segment : List UInt8) : Incoming :=
  let bytes := content segment
  if lineLimit < bytes.length then
    .overlong
  else
    .line (Text.decode bytes)

/-- Taking a segment splits the bytes without loss. -/
theorem takeSegment_append
    (taken : List UInt8)
    (room : Nat)
    (stream : List UInt8) :
    (takeSegment taken room stream).1 ++
        (takeSegment taken room stream).2 =
      taken.reverse ++ stream := by
  induction room generalizing taken stream with
  | zero =>
      simp [takeSegment]
  | succ room inductionHypothesis =>
      cases stream with
      | nil =>
          simp [takeSegment]
      | cons byte rest =>
          simp only [takeSegment]
          split
          · simp
          · simpa using inductionHypothesis (byte :: taken) rest

/-- Bytes are only ever taken away. -/
theorem length_takeSegment_le
    (taken : List UInt8)
    (room : Nat)
    (stream : List UInt8) :
    (takeSegment taken room stream).2.length ≤ stream.length := by
  induction room generalizing taken stream with
  | zero =>
      simp [takeSegment]
  | succ room inductionHypothesis =>
      cases stream with
      | nil =>
          simp [takeSegment]
      | cons byte rest =>
          simp only [takeSegment]
          split
          · simp
          · have shorter := inductionHypothesis (byte :: taken) rest
            simp only [List.length_cons]
            omega

/-- A segment of a stream that goes on has at least one byte. -/
theorem length_takeSegment_lt
    (byte : UInt8)
    (rest : List UInt8) :
    (takeSegment [] segmentLimit (byte :: rest)).2.length <
      (byte :: rest).length := by
  have shorter := length_takeSegment_le [byte] (lineLimit + 1) rest
  simp only [segmentLimit, takeSegment, List.length_cons]
  split
  · simp
  · omega

/-- Read once: nothing at the end of the stream, otherwise what came in and the rest. -/
def readLine? : List UInt8 → Option (Incoming × List UInt8)
  | [] =>
      none
  | byte :: rest =>
      let (segment, behind) :=
        takeSegment [] segmentLimit (byte :: rest)
      some (ofSegment segment, behind)

/-- Read to the end of the stream, behind what was read before. -/
def incomingOnto
    (earlier : List Incoming) :
    List UInt8 →
    List Incoming
  | [] =>
      earlier.reverse
  | byte :: rest =>
      incomingOnto
        (ofSegment (takeSegment [] segmentLimit (byte :: rest)).1 ::
          earlier)
        (takeSegment [] segmentLimit (byte :: rest)).2
  termination_by stream => stream.length
  decreasing_by
    exact length_takeSegment_lt byte rest

/-- Everything that a reader gives until the end of the stream. -/
def incoming (stream : List UInt8) : List Incoming :=
  incomingOnto [] stream

/-- What was read before stands in front of what is read now. -/
theorem incomingOnto_eq
    (earlier : List Incoming)
    (stream : List UInt8) :
    incomingOnto earlier stream =
      earlier.reverse ++ incoming stream := by
  unfold incoming
  induction size : stream.length using Nat.strongRecOn
      generalizing earlier stream with
  | ind length inductionHypothesis =>
      cases stream with
      | nil =>
          simp [incomingOnto]
      | cons byte rest =>
          have shorter := length_takeSegment_lt byte rest
          rw [size] at shorter
          rw [incomingOnto, incomingOnto,
            inductionHypothesis _ shorter (_ :: earlier) _ rfl,
            inductionHypothesis _ shorter [_] _ rfl]
          simp

@[simp] theorem incoming_nil :
    incoming [] = [] := by
  simp [incoming, incomingOnto]

/-- The first line is read from the front of the stream. -/
theorem incoming_of_readLine?
    {stream behind : List UInt8}
    {first : Incoming}
    (read : readLine? stream = some (first, behind)) :
    incoming stream = first :: incoming behind := by
  cases stream with
  | nil =>
      simp [readLine?] at read
  | cons byte rest =>
      simp only [readLine?, Option.some.injEq, Prod.mk.injEq] at read
      obtain ⟨rfl, rfl⟩ := read
      rw [incoming, incomingOnto, incomingOnto_eq]
      rfl

/-- Nothing is read exactly at the end of the stream. -/
theorem readLine?_eq_none_iff {stream : List UInt8} :
    readLine? stream = none ↔ stream = [] := by
  cases stream <;> simp [readLine?]

/-- Whether a reader finds a whole segment without waiting for more bytes. -/
def isComplete (arrived : List UInt8) : Bool :=
  arrived.contains lineFeed || segmentLimit ≤ arrived.length

/-- Read every complete segment, behind what was read before. -/
def takeCompleteOnto
    (earlier : List Incoming) :
    List UInt8 →
    List Incoming × List UInt8
  | [] =>
      (earlier.reverse, [])
  | byte :: rest =>
      if isComplete (byte :: rest) then
        takeCompleteOnto
          (ofSegment (takeSegment [] segmentLimit (byte :: rest)).1 ::
            earlier)
          (takeSegment [] segmentLimit (byte :: rest)).2
      else
        (earlier.reverse, byte :: rest)
  termination_by arrived => arrived.length
  decreasing_by
    exact length_takeSegment_lt byte rest

/-- What a reader finds without waiting, and the bytes that wait for more. -/
def takeComplete (arrived : List UInt8) : List Incoming × List UInt8 :=
  takeCompleteOnto [] arrived

/-- Reading on behind what was found changes nothing of what is read. -/
theorem incomingOnto_takeCompleteOnto
    (earlier : List Incoming)
    (arrived : List UInt8) :
    (takeCompleteOnto earlier arrived).1 ++
        incoming (takeCompleteOnto earlier arrived).2 =
      incomingOnto earlier arrived := by
  induction size : arrived.length using Nat.strongRecOn
      generalizing earlier arrived with
  | ind length inductionHypothesis =>
      cases arrived with
      | nil =>
          simp [takeCompleteOnto, incomingOnto]
      | cons byte rest =>
          have shorter := length_takeSegment_lt byte rest
          rw [size] at shorter
          rw [takeCompleteOnto]
          split
          · rw [inductionHypothesis _ shorter _ _ rfl]
            rw [incomingOnto]
          · rw [incomingOnto_eq]

/-- A stream is read alike at once and as far as it is complete. -/
theorem incoming_takeComplete (arrived : List UInt8) :
    (takeComplete arrived).1 ++ incoming (takeComplete arrived).2 =
      incoming arrived :=
  incomingOnto_takeCompleteOnto [] arrived

/-- A line as it is sent. -/
def sendLine (text : String) : List UInt8 :=
  Text.encode text ++ [lineFeed]

end Postroom.Wire
