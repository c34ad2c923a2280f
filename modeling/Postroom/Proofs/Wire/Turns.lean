import Postroom.Proofs.Text.Pieces
import Postroom.Proofs.Wire.Framing

namespace Postroom.Wire

/-!
# Conversations line by line

A client that puts each text on a line of its own is heard line by line, and
only carriage returns at the end of a line are lost. The server takes one turn
for each line until it hangs up.
-/

section Hearing

/-- What a reader gets of a text that was put on a line of its own. -/
def received (text : String) : String :=
  Text.dropEndWhile (· == '\r') text

/-- Only carriage returns are lost. -/
theorem exists_eq_received_append (text : String) :
    ∃ returns : String,
      text = received text ++ returns ∧
        ∀ character ∈ returns.toList, character = '\r' := by
  obtain ⟨returns, whole, lost⟩ :=
    Text.exists_eq_dropEndWhile_append (· == '\r') text
  exact
    ⟨returns, whole, fun character member => eq_of_beq (lost character member)⟩

/-- What is received could be put on a line again without further loss. -/
theorem isLine_received
    {text : String}
    (unbroken : '\n' ∉ text.toList) :
    IsLine (received text) := by
  obtain ⟨returns, whole, _⟩ := exists_eq_received_append text
  rw [whole, String.toList_append, List.mem_append, not_or] at unbroken
  refine ⟨unbroken.1, fun last => ?_⟩
  have kept := Text.getLast?_dropEndWhile last
  simp at kept

/-- A text that is a line is received whole. -/
theorem IsLine.received_eq
    {text : String}
    (isLine : IsLine text) :
    received text = text := by
  have noReturn : text.toList.reverse.head? ≠ some '\r' := by
    rw [List.head?_reverse]
    exact isLine.2
  have stays := List.dropWhile_beq_eq_self_of_head?_ne noReturn
  rw [received, ← String.toList_inj, Text.toList_dropEndWhile, stays,
    List.reverse_reverse]

/-- Nothing is lost in front of what could stand on a line alone. -/
theorem received_append
    {front : String}
    (isLine : IsLine front)
    (text : String) :
    received (front ++ text) = front ++ received text := by
  have stays := congrArg String.toList isLine.received_eq
  rw [received, Text.toList_dropEndWhile, List.reverse_eq_iff] at stays
  rw [received, received, ← String.toList_inj, String.toList_append,
    Text.toList_dropEndWhile, Text.toList_dropEndWhile,
    String.toList_append, List.reverse_append, List.dropWhile_append]
  split
  · rename_i nothing
    rw [List.isEmpty_iff] at nothing
    rw [stays, nothing]
    simp
  · simp

/-- The bytes that are lost are carriage returns. -/
theorem exists_encode_eq_received_append (text : String) :
    ∃ returns : List UInt8,
      Text.encode text = Text.encode (received text) ++ returns ∧
        ∀ byte ∈ returns, byte = carriageReturn := by
  obtain ⟨returns, whole, areReturns⟩ := exists_eq_received_append text
  refine ⟨Text.encode returns, ?_, ?_⟩
  · rw [← Text.encode_append, ← whole]
  · intro byte member
    obtain ⟨character, inReturns, ofCharacter⟩ := List.mem_flatMap.1 member
    rw [areReturns character inReturns] at ofCharacter
    have bytes : String.utf8EncodeChar '\r' = [carriageReturn] := by
      decide
    rwa [bytes, List.mem_singleton] at ofCharacter

/-- A text without a line feed that fits is received behind one reading. -/
theorem readLine?_sendLine_received
    {text : String}
    (unbroken : '\n' ∉ text.toList)
    (fits : Fits text)
    (rest : List UInt8) :
    readLine? (sendLine text ++ rest) =
      some (.line (received text), rest) := by
  obtain ⟨returns, whole, areReturns⟩ := exists_encode_eq_received_append text
  have isLine := isLine_received unbroken
  rw [Fits, whole, List.length_append] at fits
  have split :
      sendLine text ++ rest =
        Text.encode (received text) ++ returns ++ lineFeed :: rest := by
    rw [sendLine, whole, List.append_assoc, List.singleton_append]
  rw [split,
    readLine?_of_returns_lineFeed isLine.lineFeed_not_mem
      (fun _ => isLine.endsLine_getLast?) (Nat.le_of_add_right_le fits)
      areReturns (Nat.lt_of_le_of_lt fits (by decide)),
    Text.decode_encode]

/-- Texts without line feeds that fit are received one by one. -/
theorem incoming_flatMap_sendLine_received
    {texts : List String}
    (ready : ∀ text ∈ texts, '\n' ∉ text.toList ∧ Fits text) :
    incoming (texts.flatMap sendLine) =
      texts.map fun text => .line (received text) := by
  induction texts with
  | nil =>
      simp
  | cons first others inductionHypothesis =>
      obtain ⟨unbroken, fits⟩ := ready first List.mem_cons_self
      rw [List.flatMap_cons, List.map_cons,
        incoming_of_readLine? (readLine?_sendLine_received unbroken fits _),
        inductionHypothesis fun text member =>
          ready text (List.mem_cons_of_mem _ member)]

end Hearing

section Answering

variable {service : Service Session}

/-- A server greets its client and answers what comes in. -/
theorem fst_serve
    (room : MailRoom)
    (stream : List UInt8) :
    (serve service room stream).1 =
      service.greeting ::
        (answerAll service ⟨service.start, room, true⟩ (incoming stream)).1 :=
  rfl

/-- The room is left as the answers leave it. -/
theorem snd_serve
    (room : MailRoom)
    (stream : List UInt8) :
    (serve service room stream).2 =
      (answerAll service ⟨service.start, room, true⟩
        (incoming stream)).2.room :=
  rfl

variable
  {session : Session}
  {room : MailRoom}
  {text : String}
  {turn : Turn Session}
  (taken : service.answer session room text = turn)

include taken

/-- A server takes its turn and listens on. -/
theorem answerAll_of_goesOn
    (goesOn : turn.ends = false)
    (rest : List Incoming) :
    answerAll service ⟨session, room, true⟩ (.line text :: rest) =
      (turn.reply ::
          (answerAll service ⟨turn.session, turn.room, true⟩ rest).1,
        (answerAll service ⟨turn.session, turn.room, true⟩ rest).2) := by
  simp [answerAll, answer, taken, goesOn]

/-- A server takes its turn and hangs up. -/
theorem answerAll_of_ends
    (ends : turn.ends = true)
    (rest : List Incoming) :
    answerAll service ⟨session, room, true⟩ (.line text :: rest) =
      ([turn.reply], ⟨turn.session, turn.room, false⟩) := by
  simp [answerAll, answer, taken, ends, answerAll_of_closed]

end Answering

end Postroom.Wire
