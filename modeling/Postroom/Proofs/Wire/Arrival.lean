import Postroom.Proofs.Wire.Reading

namespace Postroom.Wire

/-!
# What has arrived decides what is read

A reader that is called again and again gives what comes in, one message for
each call, and then nothing any more. A segment that has arrived as a whole is
read alike whatever bytes arrive behind it, so a reader that does not wait
gives the same as one that has the whole stream before it.
-/

/-- What one call of a reader leaves of a stream. -/
def afterLine (stream : List UInt8) : List UInt8 :=
  match readLine? stream with
  | none =>
      []
  | some (_, rest) =>
      rest

/-- What a number of calls leave of a stream. -/
def leftBehind : Nat → List UInt8 → List UInt8
  | 0, stream =>
      stream
  | number + 1, stream =>
      afterLine (leftBehind number stream)

/-- What a reader gives at the call that comes behind a number of others. -/
def readNth?
    (number : Nat)
    (stream : List UInt8) :
    Option Incoming :=
  (readLine? (leftBehind number stream)).map Prod.fst

/-- A call gives a message and leaves the rest to the next one. -/
theorem readLine?_leftBehind
    (number : Nat)
    (stream : List UInt8) :
    readLine? (leftBehind number stream) =
      (readNth? number stream).map (·, leftBehind (number + 1) stream) := by
  rw [readNth?, leftBehind, afterLine]
  cases readLine? (leftBehind number stream) <;> rfl

/-- Nothing is left where nothing was read. -/
theorem leftBehind_of_none
    {number : Nat}
    {stream : List UInt8}
    (nothing : readNth? number stream = none) :
    leftBehind number stream = [] ∧ leftBehind (number + 1) stream = [] := by
  have unread := readLine?_leftBehind number stream
  rw [nothing, Option.map_none] at unread
  refine ⟨readLine?_eq_none_iff.1 unread, ?_⟩
  rw [leftBehind, afterLine, unread]

/-- Each call takes one message away. -/
theorem incoming_leftBehind
    (number : Nat)
    (stream : List UInt8) :
    incoming (leftBehind number stream) = (incoming stream).drop number := by
  induction number with
  | zero =>
      rfl
  | succ number inductionHypothesis =>
      rw [← List.tail_drop, ← inductionHypothesis, leftBehind, afterLine]
      cases read : readLine? (leftBehind number stream) with
      | none =>
          simp [readLine?_eq_none_iff.1 read]
      | some pair =>
          simp [incoming_of_readLine? read]

/-- The calls of a reader give one after another what comes in. -/
theorem readNth?_eq_getElem?
    (number : Nat)
    (stream : List UInt8) :
    readNth? number stream = (incoming stream)[number]? := by
  rw [← List.head?_drop, ← incoming_leftBehind, readNth?]
  cases read : readLine? (leftBehind number stream) with
  | none =>
      simp [readLine?_eq_none_iff.1 read]
  | some pair =>
      simp [incoming_of_readLine? read]

/-- What is left behind a line is the end of the stream. -/
theorem suffix_of_readLine?
    {stream behind : List UInt8}
    {first : Incoming}
    (read : readLine? stream = some (first, behind)) :
    behind <:+ stream := by
  obtain ⟨_, _, rfl⟩ := readLine?_eq_some_iff.1 read
  exact ⟨_, takeSegment_append [] segmentLimit stream⟩

section Complete

variable {arrived : List UInt8} (later : List UInt8)

/-- A complete segment is taken alike, whatever arrives behind it. -/
theorem takeSegment_append_of_isComplete
    (complete : isComplete arrived = true) :
    takeSegment [] segmentLimit (arrived ++ later) =
      ((takeSegment [] segmentLimit arrived).1,
        (takeSegment [] segmentLimit arrived).2 ++ later) := by
  by_cases ends : lineFeed ∈ arrived
  · obtain ⟨bytes, rest, rfl, absent⟩ := List.eq_append_cons_of_mem ends
    rw [List.append_assoc, List.cons_append]
    by_cases near : bytes.length < segmentLimit
    · rw [takeSegment_of_lineFeed [] absent near,
        takeSegment_of_lineFeed [] absent near]
    · have far := Nat.le_of_not_lt near
      rw [takeSegment_of_long [] absent far, takeSegment_of_long [] absent far]
      simp
  · have far : segmentLimit ≤ arrived.length := by
      simpa [isComplete, ends] using complete
    have alone := takeSegment_of_long [] ends far []
    rw [List.append_nil] at alone
    rw [takeSegment_of_long [] ends far, alone]
    simp

/-- A line that has arrived as a whole is read alike, whatever arrives behind it. -/
theorem readLine?_append_of_isComplete
    (complete : isComplete arrived = true)
    {first : Incoming}
    {behind : List UInt8}
    (read : readLine? arrived = some (first, behind)) :
    readLine? (arrived ++ later) = some (first, behind ++ later) := by
  obtain ⟨inhabited, rfl, rfl⟩ := readLine?_eq_some_iff.1 read
  rw [readLine?_eq_some_iff, takeSegment_append_of_isComplete later complete]
  exact ⟨List.append_ne_nil_of_left_ne_nil inhabited later, rfl, rfl⟩

end Complete

/-- What was read was complete when the stream goes on behind it, or when it ends with a line feed. -/
theorem isComplete_of_readLine?
    {taken left : List UInt8}
    {first : Incoming}
    (read : readLine? (taken ++ left) = some (first, left))
    (stops : left ≠ [] ∨ taken.getLast? = some lineFeed) :
    isComplete taken = true := by
  obtain ⟨_, _, rest⟩ := readLine?_eq_some_iff.1 read
  have whole := takeSegment_append [] segmentLimit (taken ++ left)
  obtain ⟨bytes, absent, ends⟩ := takeSegment_cases segmentLimit (taken ++ left)
  rw [rest] at whole ends
  rw [List.reverse_nil, List.nil_append] at whole
  rw [List.append_cancel_right whole] at ends
  rcases ends with rfl | ⟨rfl, ended | full⟩
  · simp [isComplete]
  · have last := List.mem_of_getLast? (stops.resolve_left (by simp [ended]))
    exact absurd last absent
  · simp [isComplete, full]

/-- What was read is read alike with other bytes in place of those that were left. -/
theorem readLine?_of_other
    {taken left : List UInt8}
    {first : Incoming}
    (read : readLine? (taken ++ left) = some (first, left))
    (stops : left ≠ [] ∨ taken.getLast? = some lineFeed)
    (other : List UInt8) :
    readLine? (taken ++ other) = some (first, other) := by
  have complete := isComplete_of_readLine? read stops
  cases alone : readLine? taken with
  | none =>
      rw [readLine?_eq_none_iff] at alone
      subst alone
      cases complete
  | some pair =>
      obtain ⟨message, behind⟩ := pair
      have known := readLine?_append_of_isComplete left complete alone
      rw [read, Option.some.injEq, Prod.mk.injEq] at known
      obtain ⟨rfl, same⟩ := known
      have nothing : behind = [] := List.self_eq_append_left.1 same
      rw [readLine?_append_of_isComplete other complete alone, nothing,
        List.nil_append]

/-- A number of calls give the same and leave the rest, whatever arrives behind a stream. -/
def Settled
    (number : Nat)
    (stream : List UInt8) :
    Prop :=
  ∀ later,
    leftBehind number (stream ++ later) = leftBehind number stream ++ later ∧
      ∀ earlier < number,
        readNth? earlier (stream ++ later) = readNth? earlier stream

/-- Nothing was read yet. -/
theorem settled_zero (stream : List UInt8) :
    Settled 0 stream :=
  fun _ => ⟨rfl, fun _ below => absurd below (Nat.not_lt_zero _)⟩

namespace Settled

variable {number : Nat} {stream : List UInt8}

/-- What is settled stays so when more arrives. -/
theorem append
    (settled : Settled number stream)
    (arrived : List UInt8) :
    Settled number (stream ++ arrived) := by
  intro later
  obtain ⟨left, same⟩ := settled arrived
  obtain ⟨leftToo, sameToo⟩ := settled (arrived ++ later)
  rw [List.append_assoc, leftToo, left, List.append_assoc]
  exact
    ⟨rfl, fun earlier below =>
      (sameToo earlier below).trans (same earlier below).symm⟩

/-- A call that finds a whole segment settles what it gives. -/
theorem succ
    (settled : Settled number stream)
    (complete : isComplete (leftBehind number stream) = true) :
    Settled (number + 1) stream := by
  intro later
  obtain ⟨left, same⟩ := settled later
  cases read : readLine? (leftBehind number stream) with
  | none =>
      rw [readLine?_eq_none_iff.1 read] at complete
      cases complete
  | some pair =>
      obtain ⟨message, behind⟩ := pair
      have readToo :=
        readLine?_append_of_isComplete later complete read
      constructor
      · simp only [leftBehind, afterLine, left, readToo, read]
      · intro earlier below
        rcases Nat.lt_succ_iff_lt_or_eq.1 below with before | rfl
        · exact same earlier before
        · rw [readNth?, readNth?, left, readToo, read]
          rfl

end Settled

end Postroom.Wire
