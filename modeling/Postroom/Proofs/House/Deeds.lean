import Postroom.House
import Postroom.Proofs.Access.Rules
import Postroom.Proofs.Mailbox.Deeds
import Postroom.Proofs.Submission.Rules

namespace Postroom

/-!
# The deeds of a house

What the sessions of a house did to its mail can be told from their lines and
the replies: a `send` that was answered `ok` sent the email of the draft, and
a `delete` that was answered `ok` deleted a message of the user who was logged
in. The invariant says that the store of the house is described by the ledger
of these deeds, whatever else the sessions did and however they interleaved.
-/

open Mailbox (Deed Ledger Lawful)

/-- Whether an event is a line of some session. -/
def Event.isLine : Event → Bool
  | .submission .. | .access .. =>
      true
  | .deposit .. =>
      false

/-- What a submitted line did, as the draft before it and its reply tell. -/
def Submission.Session.deed?
    (session : Submission.Session)
    (line : String)
    (reply : Reply) :
    Option Deed :=
  match Submission.Command.ofLine line, session.draft.email with
  | .send, .ok email =>
      if reply = Reply.ok then
        some (.sent email)
      else
        none
  | _, _ =>
      none

/-- What a visitor's line did, as the login before it and its reply tell. -/
def Access.Session.deed?
    (session : Access.Session)
    (line : String)
    (reply : Reply) :
    Option Deed :=
  match Access.Command.ofLine line, session with
  | .delete number, .authenticated user =>
      if reply = Reply.ok then
        (Access.readMessageId? number).map (.deleted user)
      else
        none
  | _, _ =>
      none

namespace House

/-- What the line of an event did to the mail. -/
def deed? (house : House) : Event → Option Deed
  | .submission client line =>
      (house.submissions client).deed? line
        (house.answerSubmission client line).1.reply
  | .access visitor line =>
      (house.accesses visitor).deed? line
        (house.answerAccess visitor line).1.reply
  | .deposit .. =>
      none

/-- The deeds of some events, in order. -/
def deeds (house : House) : List Event → List Deed
  | [] =>
      []
  | event :: rest =>
      (house.deed? event).toList ++ (house.after event).deeds rest

/--
The store of a mailbox server is described by the ledger of some lawful deeds.

Drafts hold accepted recipients only, so that each of them can be delivered.
-/
structure Standing
    (domain : String)
    (users : UserTable)
    (house : House)
    (deeds : List Deed) : Prop where
  intake :
    house.room.intake = .mailbox domain
  known :
    house.room.users = users
  drafts :
    ∀ client, (house.submissions client).Accepted house.room
  describes :
    (Ledger.ofDeeds domain deeds).Describes house.room.store
  lawful :
    Lawful domain users deeds

/-- A submitted line changes no store, or it is the deed of sending its draft. -/
theorem submission_cases
    (house : House)
    (client : Nat)
    (line : String) :
    (house.deed? (.submission client line) = none ∧
        (house.after (.submission client line)).room.store =
          house.room.store) ∨
      ∃ email,
        (house.submissions client).draft.email = .ok email ∧
          house.room.deliver email =
            .ok (house.after (.submission client line)).room ∧
          house.deed? (.submission client line) = some (.sent email) := by
  simp only [after, answerSubmission, deed?]
  rcases (house.submissions client).process_cases house.room line with
    ⟨command, reply, next, later, read, succeeds, answer⟩ |
    ⟨error, _, answer⟩
  · rw [answer]
    simp only [Submission.Session.deed?, read]
    cases succeeds with
    | sent phase built delivered =>
        exact Or.inr
          ⟨_, built, delivered, by simp [built, Submission.Answer.reply]⟩
    | begun | addressed | signed | titled | filled | left =>
        exact Or.inl ⟨rfl, rfl⟩
  · rw [answer]
    refine Or.inl ⟨?_, rfl⟩
    simp only [Submission.Session.deed?, Submission.Answer.reply,
      Submission.Error.reply, Reply.error_ne_ok, ↓reduceIte]
    split <;> rfl

/-- A visitor's line changes no store, or it is the deed of deleting a message. -/
theorem access_cases
    (house : House)
    (visitor : Nat)
    (line : String) :
    (house.deed? (.access visitor line) = none ∧
        (house.after (.access visitor line)).room = house.room) ∨
      ∃ user identifier email later,
        house.room.store.delete user identifier = .ok (email, later) ∧
          house.deed? (.access visitor line) =
            some (.deleted user identifier) ∧
          (house.after (.access visitor line)).room =
            { house.room with store := later } := by
  simp only [after, answerAccess, deed?, setStore, setAccess]
  rcases (house.accesses visitor).process_cases
      house.room.users house.room.store line with
    ⟨command, reply, next, later, read, succeeds, answer⟩ |
    ⟨error, _, answer⟩
  · rw [answer]
    simp only [Access.Session.deed?, read]
    cases succeeds with
    | @delete user number identifier email later visits numbered removed =>
        refine Or.inr ⟨user, identifier, email, later, removed, ?_, rfl⟩
        simp [visits, Access.Answer.reply,
          (Access.messageId_eq_ok_iff.1 numbered).2]
    | quit | login | list | showMail | logout =>
        exact Or.inl ⟨rfl, rfl⟩
  · rw [answer]
    refine Or.inl ⟨?_, rfl⟩
    simp only [Access.Session.deed?, Access.Answer.reply,
      Access.Error.reply, Reply.error_ne_ok, ↓reduceIte]
    split <;> rfl

/-- A house keeps its domain and its users. -/
theorem intake_users_after
    (house : House)
    (event : Event) :
    (house.after event).room.intake = house.room.intake ∧
      (house.after event).room.users = house.room.users := by
  cases event with
  | submission client line =>
      exact
        (house.submissions client).intake_users_process house.room line
  | access visitor line =>
      exact ⟨rfl, rfl⟩
  | deposit user email =>
      exact ⟨rfl, rfl⟩

/-- Whatever happens, drafts hold accepted recipients only. -/
theorem accepted_after
    {house : House}
    (accepted :
      ∀ client, (house.submissions client).Accepted house.room)
    (event : Event)
    (client : Nat) :
    ((house.after event).submissions client).Accepted
      (house.after event).room := by
  obtain ⟨intake, users⟩ := house.intake_users_after event
  intro recipients drafted
  rw [MailRoom.accept_congr intake users]
  cases event with
  | submission speaker line =>
      by_cases same : client = speaker
      · subst speaker
        refine (accepted client).process line recipients ?_
        simpa [after, answerSubmission, setSubmission] using drafted
      · refine accepted client recipients ?_
        simpa [after, answerSubmission, setSubmission,
          update_other same] using drafted
  | access visitor line =>
      exact accepted client recipients drafted
  | deposit user email =>
      exact accepted client recipients drafted

namespace Standing

variable
  {domain : String}
  {users : UserTable}
  {house : House}
  {deeds : List Deed}

/-- A mailbox server that has just started did nothing yet. -/
theorem opened
    (domain : String)
    (users : UserTable)
    (queue : List Email) :
    Standing domain users
      (House.opened ⟨.mailbox domain, users, .empty, queue⟩) [] where
  intake :=
    rfl
  known :=
    rfl
  drafts _ recipients drafted := by
    simp [House.opened, Submission.Session.start,
      Submission.Draft.fresh] at drafted
  describes :=
    Ledger.describes_empty
  lawful :=
    .nil

/-- An email that a mailbox server delivers from a draft is a lawful deed. -/
theorem sent
    (standing : Standing domain users house deeds)
    {client : Nat}
    {email : Email}
    {later : MailRoom}
    (built : (house.submissions client).draft.email = .ok email)
    (delivered : house.room.deliver email = .ok later)
    (few :
      (Ledger.ofDeeds domain (deeds ++ [.sent email])).issued.length <
        UInt64.size) :
    (Ledger.ofDeeds domain (deeds ++ [.sent email])).Describes
        later.store ∧
      Lawful domain users (deeds ++ [.sent email]) := by
  obtain ⟨count, accepted⟩ :=
    standing.drafts client email.recipients
      (Submission.Draft.recipients_of_email built)
  obtain ⟨somebody, contained, _⟩ :=
    (MailRoom.accept_mailbox_eq_ok_iff standing.intake).1 accepted
  have store :
      later.store =
        MailRoom.depositAll house.room.store
          (MailRoom.addressees domain email.recipients) email := by
    rw [MailRoom.deliver_mailbox standing.intake,
      MailRoom.localUsers_eq_addressees contained] at delivered
    cases delivered
    rfl
  constructor
  · rw [Ledger.ofDeeds_concat] at few ⊢
    rw [store]
    exact
      standing.describes.depositAll (Ledger.sound_ofDeeds domain deeds) few
  · exact
      standing.lawful.concat ⟨somebody, standing.known ▸ contained⟩

/-- A message that is deleted from the store is a lawful deed. -/
theorem deleted
    (standing : Standing domain users house deeds)
    {user : String}
    {identifier : Mailbox.MessageId}
    {email : Email}
    {later : Mailbox.Store}
    (removed :
      house.room.store.delete user identifier = .ok (email, later))
    (few :
      (Ledger.ofDeeds domain deeds).issued.length < UInt64.size) :
    (Ledger.ofDeeds domain
        (deeds ++ [.deleted user identifier])).Describes later ∧
      Lawful domain users (deeds ++ [.deleted user identifier]) := by
  obtain ⟨describes, held⟩ :=
    standing.describes.delete (Ledger.sound_ofDeeds domain deeds) few removed
  constructor
  · rw [Ledger.ofDeeds_concat]
    exact describes
  · exact standing.lawful.concat ⟨email, held⟩

/-- Every line of a session keeps the store described by the deeds. -/
theorem after
    (standing : Standing domain users house deeds)
    {event : Event}
    (isLine : event.isLine = true)
    (few :
      (Ledger.ofDeeds domain
        (deeds ++ (house.deed? event).toList)).issued.length <
          UInt64.size) :
    Standing domain users (house.after event)
      (deeds ++ (house.deed? event).toList) := by
  obtain ⟨intake, known⟩ := house.intake_users_after event
  have outcome :
      (Ledger.ofDeeds domain
          (deeds ++ (house.deed? event).toList)).Describes
          (house.after event).room.store ∧
        Lawful domain users (deeds ++ (house.deed? event).toList) := by
    cases event with
    | submission client line =>
        rcases house.submission_cases client line with
          ⟨none, store⟩ | ⟨email, built, delivered, deed⟩
        · rw [none, store]
          simpa using ⟨standing.describes, standing.lawful⟩
        · rw [deed] at few ⊢
          exact standing.sent built delivered few
    | access visitor line =>
        rcases house.access_cases visitor line with
          ⟨none, room⟩ |
          ⟨user, identifier, email, later, removed, deed, room⟩
        · rw [none, room]
          simpa using ⟨standing.describes, standing.lawful⟩
        · rw [deed, Option.toList_some, Ledger.ofDeeds_concat] at few
          rw [deed, room]
          exact standing.deleted removed few
    | deposit user email =>
        simp [Event.isLine] at isLine
  exact
    { intake := intake.trans standing.intake
      known := known.trans standing.known
      drafts := accepted_after standing.drafts event
      describes := outcome.1
      lawful := outcome.2 }

/-- So does every interleaving of lines. -/
theorem afterAll
    (standing : Standing domain users house deeds)
    {events : List Event}
    (areLines : ∀ event ∈ events, event.isLine = true)
    (few :
      (Ledger.ofDeeds domain
        (deeds ++ house.deeds events)).issued.length < UInt64.size) :
    Standing domain users (house.afterAll events)
      (deeds ++ house.deeds events) := by
  induction events generalizing house deeds with
  | nil =>
      simpa [House.deeds] using standing
  | cons event rest inductionHypothesis =>
      rw [House.deeds, ← List.append_assoc] at few ⊢
      have fewNow :=
        Nat.lt_of_le_of_lt
          (Ledger.issued_prefix_ofDeeds_append domain
            (deeds ++ (house.deed? event).toList)
            ((house.after event).deeds rest)).length_le few
      exact inductionHypothesis
        (standing.after (areLines event List.mem_cons_self) fewNow)
        (fun later member =>
          areLines later (List.mem_cons_of_mem event member))
        few

end Standing

end House

end Postroom
