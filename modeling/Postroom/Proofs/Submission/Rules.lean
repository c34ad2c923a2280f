import Postroom.Proofs.MailRoom
import Postroom.Proofs.Outcome
import Postroom.Submission.Session

namespace Postroom.Submission

/-!
# What submission commands do

The commands that succeed, one rule each. A rule names everything that the
command reads and everything that it changes, so a property of a whole
session follows by going through the rules once.
-/

/-- A command succeeds with a reply, and leaves a session and a mail room. -/
inductive Succeeds
    (session : Session)
    (room : MailRoom) :
    Command → Reply → Session → MailRoom → Prop where
  | begun
      (phase : session.phase = .awaitBegin) :
      Succeeds session room .begin Reply.ok session.begin room
  | addressed
      {list : String}
      {recipients : List Address}
      {count : Nat}
      (phase : session.phase = .collecting)
      (read : readRecipients list = .ok recipients)
      (accepted : room.accept recipients = .ok count) :
      Succeeds session room (.to list)
        (Reply.okWith (toString count))
        (session.setRecipients recipients) room
  | signed
      (text : String)
      (phase : session.phase = .collecting) :
      Succeeds session room (.sender text) Reply.ok
        (session.setSender text) room
  | titled
      (text : String)
      (phase : session.phase = .collecting) :
      Succeeds session room (.subject text) Reply.ok
        (session.setSubject text) room
  | filled
      (text : String)
      (phase : session.phase = .collecting) :
      Succeeds session room (.data text) Reply.ok
        (session.setData text) room
  | sent
      {email : Email}
      {later : MailRoom}
      (phase : session.phase = .collecting)
      (built : session.draft.email = .ok email)
      (delivered : room.deliver email = .ok later) :
      Succeeds session room .send Reply.ok session.reset later
  | left
      (phase : session.phase = .collecting) :
      Succeeds session room .quit Reply.bye session.close room

/-- A draft hands its recipients over to its email. -/
theorem Draft.recipients_of_email
    {draft : Draft}
    {email : Email}
    (built : draft.email = .ok email) :
    draft.recipients = some email.recipients := by
  unfold Draft.email at built
  split at built
  · rename_i recipients sender subject data drafted _ _ _
    cases built
    exact drafted
  all_goals cases built

namespace Session

/-- The email of a session is the email of its draft. -/
theorem buildEmail_eq_ok_iff
    {session : Session}
    {email : Email} :
    session.buildEmail = .ok email ↔ session.draft.email = .ok email := by
  unfold buildEmail
  cases session.draft.email <;> simp

/-- A recipient list is taken when it reads as addresses that the room accepts. -/
theorem addressTo_eq_ok_iff
    {session next : Session}
    {room : MailRoom}
    {list : String}
    {reply : Reply} :
    session.addressTo room list = .ok (reply, next) ↔
      ∃ recipients count,
        readRecipients list = .ok recipients ∧
          room.accept recipients = .ok count ∧
          reply = Reply.okWith (toString count) ∧
          next = session.setRecipients recipients := by
  simp only [addressTo, bind_eq_ok_iff, pure, Except.pure,
    Except.ok.injEq, Prod.mk.injEq]
  constructor
  · rintro ⟨recipients, read, count, accepted, rfl, rfl⟩
    exact ⟨recipients, count, read, accepted, rfl, rfl⟩
  · rintro ⟨recipients, count, read, accepted, rfl, rfl⟩
    exact ⟨recipients, read, count, accepted, rfl, rfl⟩

/-- A recipient list is refused as it is read, or as the room refuses what was read. -/
theorem addressTo_eq_error_iff
    {session : Session}
    {room : MailRoom}
    {list : String}
    {failure : Error} :
    session.addressTo room list = .error failure ↔
      readRecipients list = .error failure ∨
        ∃ recipients,
          readRecipients list = .ok recipients ∧
            room.accept recipients = .error failure := by
  simp only [addressTo, bind_eq_error_iff, pure, Except.pure, reduceCtorEq,
    and_false, exists_false, or_false]

/-- A draft is sent when it is complete and the room takes its email. -/
theorem send_eq_ok_iff
    {session next : Session}
    {room later : MailRoom} :
    session.send room = .ok (next, later) ↔
      ∃ email,
        session.draft.email = .ok email ∧
          room.deliver email = .ok later ∧
          next = session.reset := by
  simp only [send, bind_eq_ok_iff, buildEmail_eq_ok_iff, pure, Except.pure,
    Except.ok.injEq, Prod.mk.injEq]
  constructor
  · rintro ⟨email, built, room, delivered, rfl, rfl⟩
    exact ⟨email, built, delivered, rfl⟩
  · rintro ⟨email, built, delivered, rfl⟩
    exact ⟨email, built, later, delivered, rfl, rfl⟩

/-- The rules are exactly the commands that succeed. -/
theorem perform_eq_ok_iff
    {session next : Session}
    {room later : MailRoom}
    {command : Command}
    {reply : Reply} :
    session.perform room command = .ok (reply, next, later) ↔
      Succeeds session room command reply next later := by
  constructor
  · intro performed
    unfold perform at performed
    split at performed
    · rename_i phase
      cases performed
      exact .begun phase
    · cases performed
    · rename_i list phase
      obtain ⟨⟨answer, changed⟩, addressed, shape⟩ :=
        map_eq_ok_iff.1 performed
      cases shape
      obtain ⟨recipients, count, read, accepted, rfl, rfl⟩ :=
        addressTo_eq_ok_iff.1 addressed
      exact .addressed phase read accepted
    · rename_i text phase
      cases performed
      exact .signed text phase
    · rename_i text phase
      cases performed
      exact .titled text phase
    · rename_i text phase
      cases performed
      exact .filled text phase
    · rename_i phase
      obtain ⟨⟨changed, room'⟩, sent, shape⟩ :=
        map_eq_ok_iff.1 performed
      cases shape
      obtain ⟨email, built, delivered, rfl⟩ := send_eq_ok_iff.1 sent
      exact .sent phase built delivered
    · rename_i phase
      cases performed
      exact .left phase
    · cases performed
    · cases performed
    · cases performed
  · intro succeeds
    cases succeeds with
    | begun phase =>
        simp [perform, phase]
    | addressed phase read accepted =>
        have addressed :
            session.addressTo room _ = .ok (_, _) :=
          addressTo_eq_ok_iff.2 ⟨_, _, read, accepted, rfl, rfl⟩
        simp [perform, phase, addressed, Except.map]
    | signed text phase =>
        simp [perform, phase]
    | titled text phase =>
        simp [perform, phase]
    | filled text phase =>
        simp [perform, phase]
    | sent phase built delivered =>
        have sent : session.send room = .ok (_, _) :=
          send_eq_ok_iff.2 ⟨_, built, delivered, rfl⟩
        simp [perform, phase, sent, Except.map]
    | left phase =>
        simp [perform, phase]

/-- A line either follows a rule or fails, and then nothing but the phase changes. -/
theorem process_cases
    (session : Session)
    (room : MailRoom)
    (line : String) :
    (∃ command reply next later,
      Command.ofLine line = command ∧
        Succeeds session room command reply next later ∧
        session.process room line = ⟨.ok reply, next, later⟩) ∨
      ∃ error,
        session.perform room (Command.ofLine line) = .error error ∧
          session.process room line =
            ⟨.error error,
              if error.endsSession then session.close else session,
              room⟩ := by
  unfold process
  cases performed : session.perform room (Command.ofLine line) with
  | ok done =>
      rcases done with ⟨reply, next, later⟩
      exact Or.inl
        ⟨_, reply, next, later, rfl, perform_eq_ok_iff.1 performed, rfl⟩
  | error failure =>
      exact Or.inr ⟨failure, rfl, rfl⟩

/-- The recipients of a draft, once it has some, were accepted by the room. -/
def Accepted
    (session : Session)
    (room : MailRoom) :
    Prop :=
  ∀ recipients,
    session.draft.recipients = some recipients →
    ∃ count, room.accept recipients = .ok count

end Session

namespace Succeeds

variable
  {session next : Session}
  {room later : MailRoom}
  {command : Command}
  {reply : Reply}

/-- A command that succeeds leaves the domain and the users alone. -/
theorem intake_users
    (succeeds : Succeeds session room command reply next later) :
    later.intake = room.intake ∧ later.users = room.users := by
  cases succeeds with
  | sent phase built delivered =>
      exact MailRoom.intake_users_of_deliver delivered
  | _ =>
      exact ⟨rfl, rfl⟩

/-- A command that succeeds leaves only accepted recipients in a draft. -/
theorem accepted
    (succeeds : Succeeds session room command reply next later)
    (before : session.Accepted room) :
    next.Accepted room := by
  cases succeeds with
  | addressed phase read taken =>
      intro recipients drafted
      obtain rfl := Option.some.inj drafted
      exact ⟨_, taken⟩
  | sent phase built delivered =>
      intro recipients drafted
      simp [Session.reset, Draft.fresh] at drafted
  | begun | signed | titled | filled | left =>
      exact before

end Succeeds

namespace Session

/-- The domain and the users of a room stay what they are. -/
theorem intake_users_process
    (session : Session)
    (room : MailRoom)
    (line : String) :
    (session.process room line).room.intake = room.intake ∧
      (session.process room line).room.users = room.users := by
  rcases session.process_cases room line with
    ⟨command, reply, next, later, _, succeeds, answer⟩ |
    ⟨error, _, answer⟩
  · rw [answer]
    exact succeeds.intake_users
  · rw [answer]
    exact ⟨rfl, rfl⟩

/-- An answer leaves only accepted recipients in a draft. -/
theorem Accepted.process
    {session : Session}
    {room : MailRoom}
    (accepted : session.Accepted room)
    (line : String) :
    (session.process room line).session.Accepted room := by
  rcases session.process_cases room line with
    ⟨command, reply, next, later, _, succeeds, answer⟩ |
    ⟨error, _, answer⟩
  · rw [answer]
    exact succeeds.accepted accepted
  · rw [answer]
    cases error.endsSession with
    | false =>
        exact accepted
    | true =>
        exact accepted

end Session

end Postroom.Submission
