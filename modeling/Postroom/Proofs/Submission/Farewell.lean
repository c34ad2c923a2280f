import Postroom.Proofs.Submission.Dialogue

namespace Postroom.Submission

/-!
# How a submission session ends

A session is closed behind a line exactly when the server hangs up behind its
answer: by the farewell, or by an error that closes the session. Each answer to
a line is one line that begins with its outcome.
-/

/-- A reply of one line that says first how a command ended. -/
def IsOutcome (reply : Reply) : Prop :=
  ∃ text,
    reply.wire = text ++ "\n" ∧
      '\n' ∉ text.toList ∧
      (text = "ok" ∨
        Text.startsWith "ok " text = true ∨
        Text.startsWith "error " text = true)

theorem isOutcome_okWith
    {detail : String}
    (unbroken : '\n' ∉ detail.toList) :
    IsOutcome (Reply.okWith detail) := by
  refine ⟨"ok " ++ detail, Reply.wire_line _, ?_, ?_⟩
  · simpa using unbroken
  · exact Or.inr (Or.inl (Text.startsWith_eq_true_iff.2 ⟨detail, rfl⟩))

theorem isOutcome_error
    {message : String}
    (unbroken : '\n' ∉ message.toList) :
    IsOutcome (Reply.error message) := by
  refine ⟨"error " ++ message, Reply.wire_line _, ?_, ?_⟩
  · simpa using unbroken
  · exact Or.inr (Or.inr (Text.startsWith_eq_true_iff.2 ⟨message, rfl⟩))

section Commands

variable
  {session next : Session}
  {room later : MailRoom}
  {command : Command}
  {reply : Reply}

/-- Of the commands that succeed, only the one that bids farewell closes the session. -/
theorem Succeeds.closes_iff
    (succeeds : Succeeds session room command reply next later) :
    next.phase = .closed ↔ reply.isBye = true := by
  cases succeeds with
  | begun =>
      exact iff_of_false (by simp [Session.begin]) (by decide)
  | addressed phase =>
      exact
        iff_of_false (by simp [Session.setRecipients, phase])
          (ne_true_of_eq_false (isBye_okWith _))
  | signed text phase =>
      exact iff_of_false (by simp [Session.setSender, phase]) (by decide)
  | titled text phase =>
      exact iff_of_false (by simp [Session.setSubject, phase]) (by decide)
  | filled text phase =>
      exact iff_of_false (by simp [Session.setData, phase]) (by decide)
  | sent phase =>
      exact iff_of_false (by simp [Session.reset, phase]) (by decide)
  | left =>
      exact iff_of_true rfl (by decide)

/-- Every success is told in one line. -/
theorem Succeeds.isOutcome
    (succeeds : Succeeds session room command reply next later) :
    IsOutcome reply := by
  cases succeeds with
  | begun | signed | titled | filled | sent =>
      exact ⟨"ok", Reply.wire_line "ok", by decide, Or.inl rfl⟩
  | @addressed list recipients count =>
      have digits := Wire.isOneLine_toDigits (by decide : 1 < 10) count
      exact isOutcome_okWith digits.1
  | left =>
      exact isOutcome_okWith (by decide : '\n' ∉ "bye".toList)

/-- What is said of a recipient list that is refused is on one line when the list is. -/
theorem lineFeed_not_mem_message_of_addressTo
    {list : String}
    {failure : Error}
    (unbroken : '\n' ∉ list.toList)
    (failed : session.addressTo room list = .error failure) :
    '\n' ∉ failure.message.toList := by
  rcases Session.addressTo_eq_error_iff.1 failed with
    unread | ⟨recipients, read, refused⟩
  · obtain ⟨before, entry, behind, shape, _, _, rfl⟩ :=
      readRecipients_eq_error_iff.1 unread
    have isEntry : entry ∈ (Text.pieces ',' list).map Text.trim := by
      simp [shape]
    obtain ⟨piece, inList, rfl⟩ := List.mem_map.1 isEntry
    change '\n' ∉ ("invalid email pattern " ++ Text.trim piece).toList
    rw [String.toList_append, List.mem_append, not_or]
    refine ⟨by decide, fun member => unbroken ?_⟩
    exact Text.mem_of_mem_pieces inList (Text.mem_of_mem_trim member)
  · have valid := (readRecipients_eq_ok_iff.1 read).2
    exact (isOneLine_message_of_accept valid refused).1

/-- What is said of a command that fails is on one line when the command is. -/
theorem lineFeed_not_mem_message
    {line : String}
    {failure : Error}
    (unbroken : '\n' ∉ line.toList)
    (failed : session.perform room (Command.ofLine line) = .error failure) :
    '\n' ∉ failure.message.toList := by
  generalize read : Command.ofLine line = command at failed
  unfold Session.perform at failed
  split at failed
  · cases failed
  · cases failed
    decide
  · rename_i list _
    rw [Command.eq_line_of_ofLine read, Command.line, String.toList_append,
      List.mem_append, not_or] at unbroken
    exact
      lineFeed_not_mem_message_of_addressTo unbroken.2
        (map_eq_error_iff.1 failed)
  · cases failed
  · cases failed
  · cases failed
  · exact (isOneLine_message_of_send (map_eq_error_iff.1 failed)).1
  · cases failed
  · cases failed
    decide
  · cases failed
    decide
  · cases failed
    decide

end Commands

namespace Session

variable (session : Session) (room : MailRoom) {line : String}

/-- The server hangs up behind a line exactly when the session is closed behind it. -/
theorem phase_process_eq_closed_iff
    (isOpen : session.phase ≠ .closed)
    (line : String) :
    (session.process room line).session.phase = .closed ↔
      (session.process room line).ends = true := by
  rcases session.process_cases room line with
    ⟨command, reply, next, later, _, succeeds, answer⟩ |
    ⟨failure, _, answer⟩
  · rw [answer]
    exact succeeds.closes_iff
  · rw [answer]
    cases ends : failure.endsSession with
    | true =>
        exact iff_of_true rfl ends
    | false =>
        exact iff_of_false isOpen (by simp [Answer.ends, ends])

/-- Every line is answered by one line that begins with the outcome. -/
theorem isOutcome_process (unbroken : '\n' ∉ line.toList) :
    IsOutcome (session.process room line).reply := by
  rcases session.process_cases room line with
    ⟨command, reply, next, later, _, succeeds, answer⟩ |
    ⟨failure, failed, answer⟩
  · rw [answer]
    exact succeeds.isOutcome
  · rw [answer]
    exact isOutcome_error (lineFeed_not_mem_message unbroken failed)

end Session

end Postroom.Submission
