import Postroom.Proofs.Access.Refusals
import Postroom.Text.Decimal

namespace Postroom.Access

/-!
# How an access session ends

A session is closed behind a line exactly when the server hangs up behind its
answer. What is told of stored mail is never taken for the farewell, whatever
senders, subjects and data stand in the store: a listing begins with a number,
and an email is shown in more lines than one.
-/

/-- The line that stands for a message begins with a digit. -/
theorem listingLine_eq_cons (message : Mailbox.MessageId × Email) :
    ∃ digit rest,
      digit.isDigit = true ∧
        (listingLine message).toList = digit :: rest := by
  cases digits : Nat.toDigits 10 message.1.toNat with
  | nil =>
      exact absurd digits Nat.toDigits_ne_nil
  | cons digit others =>
      have isDigit : digit.isDigit = true :=
        Nat.isDigit_of_mem_toDigits (by decide) (by decide)
          (digits ▸ List.mem_cons_self)
      simp only [listingLine, String.toList_append,
        Text.toList_writeDecimal, digits, List.append_assoc,
        List.cons_append]
      exact ⟨digit, _, isDigit, rfl⟩

/-- It is no text that begins with another character. -/
theorem listingLine_ne
    {first : Char}
    (letter : first.isDigit = false)
    {text : String}
    {others : List Char}
    (begins : text.toList = first :: others)
    (message : Mailbox.MessageId × Email) :
    listingLine message ≠ text := by
  rintro rfl
  obtain ⟨digit, rest, isDigit, shape⟩ := listingLine_eq_cons message
  rw [begins] at shape
  rw [(List.cons.inj shape).1, isDigit] at letter
  cases letter

/-- A listing of a mailbox does not end the session. -/
theorem isBye_listing (messages : Mailbox.Messages) :
    (Reply.listing (messages.map listingLine)).isBye = false := by
  cases messages with
  | nil =>
      decide
  | cons first others =>
      simp only [Reply.isBye, beq_eq_false_iff_ne, ne_eq]
      intro same
      exact
        listingLine_ne (by decide) rfl first (congrArg Reply.first same)

/-- An email that is shown does not end the session. -/
theorem isBye_emailLines (email : Email) :
    (Reply.listing (emailLines email)).isBye = false := by
  simp [Reply.isBye, Reply.listing, emailLines, Reply.bye, Reply.line]

section Commands

variable
  {session next : Session}
  {users : UserTable}
  {store later : Mailbox.Store}
  {command : Command}
  {reply : Reply}

/-- Of the commands that succeed, only the one that bids farewell closes the session. -/
theorem Succeeds.closes_iff
    (succeeds : Succeeds session users store command reply next later) :
    next = .closed ↔ reply.isBye = true := by
  cases succeeds with
  | quit =>
      exact iff_of_true rfl (by decide)
  | login =>
      exact iff_of_false (by simp [Session.login]) (by decide)
  | list visitor =>
      exact
        iff_of_false (by simp [visitor])
          (ne_true_of_eq_false (isBye_listing _))
  | showMail visitor =>
      exact
        iff_of_false (by simp [visitor])
          (ne_true_of_eq_false (isBye_emailLines _))
  | delete visitor =>
      exact iff_of_false (by simp [visitor]) (by decide)
  | logout =>
      exact iff_of_false (by simp [Session.logout]) (by decide)

/-- The server hangs up behind a line exactly when the session is closed behind it. -/
theorem Session.process_eq_closed_iff
    (session : Session)
    (isOpen : session ≠ .closed)
    (users : UserTable)
    (store : Mailbox.Store)
    (line : String) :
    (session.process users store line).session = .closed ↔
      (session.process users store line).ends = true := by
  rcases session.process_cases users store line with
    ⟨command, reply, next, later, _, succeeds, answer⟩ |
    ⟨error, _, answer⟩
  · rw [answer]
    exact succeeds.closes_iff
  · rw [answer]
    cases ends : error.endsSession with
    | true =>
        exact iff_of_true rfl ends
    | false =>
        exact iff_of_false isOpen (by simp [Answer.ends, ends])

end Commands

end Postroom.Access
