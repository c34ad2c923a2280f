import Mathlib.Data.List.Induction
import Postroom.Proofs.Submission.Addressing
import Postroom.Proofs.Submission.Transcript

namespace Postroom.Submission

/-!
# When a session collects

What a client said, and what the mail room was ready to take, tells whether the
session collects: it was begun, and every line since then was one at which a
session goes on. So a client that keeps to the protocol is not cut off, and the
email that it asks for is handed over. The main statement joins this with what
the transcript says of the email.
-/

/-- The lines at which a session goes on collecting. -/
inductive Continues
    (transcript : List Exchange)
    (room : MailRoom) :
    String → Prop where
  /-- The room may refuse recipients, as long as they can be read. -/
  | addressed
      {list : String}
      {recipients : List Address}
      (read : readRecipients list = .ok recipients) :
      Continues transcript room ("to " ++ list)
  | signed (text : String) :
      Continues transcript room ("from " ++ text)
  | titled (text : String) :
      Continues transcript room ("subject " ++ text)
  | filled (text : String) :
      Continues transcript room ("data " ++ text)
  | incomplete
      {field : DraftField}
      (missing : Transcript.email transcript = .error field) :
      Continues transcript room "send"
  | sent
      {email : Email}
      {later : MailRoom}
      (complete : Transcript.email transcript = .ok email)
      (delivered : room.deliver email = .ok later) :
      Continues transcript room "send"

section Refusals

variable {failure : Error}

/-- A list that cannot be read ends the session. -/
theorem endsSession_of_readRecipients
    {list : String}
    (unread : readRecipients list = .error failure) :
    failure.endsSession = true := by
  obtain ⟨_, _, _, _, _, _, rfl⟩ := readRecipients_eq_error_iff.1 unread
  rfl

/-- Recipients that the room refuses do not. -/
theorem endsSession_of_accept
    {room : MailRoom}
    {recipients : List Address}
    (refused : room.accept recipients = .error failure) :
    failure.endsSession = false := by
  unfold MailRoom.accept at refused
  split at refused
  · dsimp only at refused
    split at refused
    · cases refused
      rfl
    · split at refused
      · cases refused
        rfl
      · cases refused
  · cases refused
  · cases refused

/-- A room that takes no email ends the session. -/
theorem endsSession_of_deliver
    {room : MailRoom}
    {email : Email}
    (refused : room.deliver email = .error failure) :
    failure.endsSession = true := by
  unfold MailRoom.deliver at refused
  split at refused
  · cases refused
  · cases refused
  · cases refused
    rfl

end Refusals

namespace Session

/-- A new session is begun by `begin`, and closed by every other line. -/
theorem process_start (room : MailRoom) (line : String) :
    start.process room line =
      if line = "begin" then
        ⟨.ok Reply.ok, start.begin, room⟩
      else
        ⟨.error .protocolViolation, start.close, room⟩ := by
  have begins : Command.ofLine line = .begin ↔ line = "begin" :=
    Command.ofLine_eq_iff (by simp)
  split
  · rename_i isBegin
    subst isBegin
    exact (Succeeds.begun rfl).process_line
  · rename_i other
    have apart : Command.ofLine line ≠ .begin :=
      mt begins.1 other
    cases read : Command.ofLine line <;>
      simp_all [process, perform, start, Error.endsSession]

section Collecting

variable
  {session : Session}
  {room : MailRoom}
  {line : String}
  (collects : session.phase = .collecting)

include collects

/-- A session collects until it is left or an error ends it. -/
theorem phase_process_eq_collecting_iff :
    (session.process room line).session.phase = .collecting ↔
      line ≠ "quit" ∧
        ∀ failure,
          (session.process room line).result = .error failure →
          failure.endsSession = false := by
  have quits : Command.ofLine line = .quit ↔ line = "quit" :=
    Command.ofLine_eq_iff (by simp)
  rcases session.process_cases room line with
    ⟨command, reply, next, later, rfl, succeeds, answer⟩ |
    ⟨failure, failed, answer⟩
  · rw [answer, ne_eq, ← quits]
    generalize Command.ofLine line = command at succeeds
    cases succeeds with
    | left => simp [close]
    | begun => simp [begin]
    | _ => simp [collects, setRecipients, setSender, setSubject, setData, reset]
  · have stays : line ≠ "quit" := by
      rw [ne_eq, ← quits]
      intro quit
      simp [perform, quit, collects] at failed
    rw [answer]
    cases ends : failure.endsSession <;> simp [collects, close, stays, ends]

/-- A recipient list that can be read leaves a session open, accepted or not. -/
theorem phase_process_to_eq_collecting_iff {list : String} :
    (session.process room ("to " ++ list)).session.phase = .collecting ↔
      ∃ recipients, readRecipients list = .ok recipients := by
  cases addressed : session.addressTo room list with
  | ok taken =>
      obtain ⟨reply, next⟩ := taken
      rw [process_to_of_ok collects addressed]
      obtain ⟨recipients, _, read, _, _, rfl⟩ :=
        addressTo_eq_ok_iff.1 addressed
      exact iff_of_true collects ⟨recipients, read⟩
  | error failure =>
      rw [process_to_of_error collects addressed]
      rcases addressTo_eq_error_iff.1 addressed with
        unread | ⟨recipients, read, refused⟩
      · rw [endsSession_of_readRecipients unread]
        refine iff_of_false (by simp [close]) ?_
        rintro ⟨recipients, read⟩
        cases unread.symm.trans read
      · rw [endsSession_of_accept refused]
        exact iff_of_true collects ⟨recipients, read⟩

/-- A recipient list is taken when it can be read and the room accepts it. -/
theorem isOk_reply_process_to_iff {list : String} :
    (session.process room ("to " ++ list)).reply.isOk = true ↔
      ∃ recipients count,
        readRecipients list = .ok recipients ∧
          room.accept recipients = .ok count := by
  cases addressed : session.addressTo room list with
  | ok taken =>
      obtain ⟨reply, next⟩ := taken
      rw [process_to_of_ok collects addressed]
      obtain ⟨recipients, count, read, accepted, rfl, _⟩ :=
        addressTo_eq_ok_iff.1 addressed
      exact
        iff_of_true (Reply.isOk_okWith _) ⟨recipients, count, read, accepted⟩
  | error failure =>
      rw [process_to_of_error collects addressed]
      refine iff_of_false ?_ ?_
      · simp [Answer.reply, Error.reply, Reply.isOk_error]
      · rintro ⟨recipients, count, read, accepted⟩
        rw [addressTo_eq_ok_iff.2
          ⟨recipients, count, read, accepted, rfl, rfl⟩] at addressed
        cases addressed

end Collecting

end Session

namespace Recorded

/-- The histories behind which a session collects. -/
inductive Collects : List (MailRoom × String) → Prop where
  | begun (room : MailRoom) :
      Collects [(room, "begin")]
  | continued
      {turns : List (MailRoom × String)}
      {room : MailRoom}
      {line : String}
      (collects : Collects turns)
      (continues :
        Continues (start.afterAll turns).transcript room line) :
      Collects (turns ++ [(room, line)])

theorem afterAll_concat
    (recorded : Recorded)
    (turns : List (MailRoom × String))
    (turn : MailRoom × String) :
    recorded.afterAll (turns ++ [turn]) =
      (recorded.afterAll turns).after turn :=
  List.foldl_concat ..

section Step

variable
  {recorded : Recorded}
  {room : MailRoom}
  {line : String}
  (faithful : Faithful recorded)
  (collects : recorded.session.phase = .collecting)

include faithful collects

/-- A session that goes on was told a line at which sessions go on. -/
theorem continues_of_phase
    (collectsOn :
      (recorded.session.process room line).session.phase = .collecting) :
    Continues recorded.transcript room line := by
  generalize read : Command.ofLine line = command
  obtain rfl := Command.eq_line_of_ofLine read
  cases command with
  | «to» list =>
      obtain ⟨recipients, listed⟩ :=
        (Session.phase_process_to_eq_collecting_iff collects).1 collectsOn
      exact .addressed listed
  | sender text =>
      exact .signed text
  | subject text =>
      exact .titled text
  | data text =>
      exact .filled text
  | send =>
      cases asked : Transcript.email recorded.transcript with
      | error field =>
          exact .incomplete asked
      | ok email =>
          cases delivered : room.deliver email with
          | ok later =>
              exact .sent asked delivered
          | error failure =>
              have handed :=
                (handed?_eq_some_iff faithful).2 ⟨collects, read, asked⟩
              rw [Session.process_of_handed handed, delivered] at collectsOn
              simp only [endsSession_of_deliver delivered] at collectsOn
              cases collectsOn
  | begin | quit | unknown text =>
      simp [Session.process, Session.perform, read, collects, Session.close,
        Error.endsSession] at collectsOn

/-- At such a line it goes on. -/
theorem phase_of_continues
    (continues : Continues recorded.transcript room line) :
    (recorded.session.process room line).session.phase = .collecting := by
  have drafted := faithful.email_eq collects
  have goesOn
      {command : Command}
      {reply : Reply}
      {next : Session}
      {later : MailRoom}
      (succeeds : Succeeds recorded.session room command reply next later)
      (said : line = command.line)
      (collectsOn : next.phase = .collecting) :
      (recorded.session.process room line).session.phase = .collecting := by
    rw [said, succeeds.process_line]
    exact collectsOn
  cases continues with
  | addressed listed =>
      exact
        (Session.phase_process_to_eq_collecting_iff collects).2 ⟨_, listed⟩
  | signed text =>
      exact goesOn (.signed text collects) rfl collects
  | titled text =>
      exact goesOn (.titled text collects) rfl collects
  | filled text =>
      exact goesOn (.filled text collects) rfl collects
  | incomplete missing =>
      rw [Session.process_of_missing collects
        (Command.ofLine_eq_send_iff.2 rfl) (drafted.trans missing)]
      exact collects
  | sent complete delivered =>
      exact
        goesOn (.sent collects (drafted.trans complete) delivered) rfl
          collects

end Step

/-- A new session collects exactly behind `begin`. -/
theorem phase_after_start_eq_collecting_iff
    {room : MailRoom}
    {line : String} :
    (start.after (room, line)).session.phase = .collecting ↔
      line = "begin" := by
  simp only [after, start, Session.process_start]
  split <;> simp [*, Session.begin, Session.close]

/-- The history tells whether a session collects. -/
theorem phase_afterAll_start_eq_collecting_iff
    {turns : List (MailRoom × String)} :
    (start.afterAll turns).session.phase = .collecting ↔ Collects turns := by
  have faithful (turns : List (MailRoom × String)) :
      Faithful (start.afterAll turns) :=
    faithful_afterAll Faithful.start turns
  constructor
  · induction turns using List.reverseRecOn with
    | nil =>
        intro collects
        cases collects
    | append_singleton earlier turn inductionHypothesis =>
        obtain ⟨room, line⟩ := turn
        rw [afterAll_concat]
        intro collects
        cases phase : (start.afterAll earlier).session.phase with
        | awaitBegin =>
            obtain rfl := phase_afterAll_start_iff.1 phase
            obtain rfl := phase_after_start_eq_collecting_iff.1 collects
            exact .begun room
        | collecting =>
            exact
              .continued (inductionHypothesis phase)
                (continues_of_phase (faithful earlier) phase collects)
        | closed =>
            have same := Session.process_of_closed phase room line
            rw [after, same, phase] at collects
            cases collects
  · intro collects
    induction collects with
    | begun room =>
        exact phase_after_start_eq_collecting_iff.2 rfl
    | continued _ continues inductionHypothesis =>
        rw [afterAll_concat]
        exact phase_of_continues (faithful _) inductionHypothesis continues

/--
Whatever a client said and whatever else happened to the mail room, the history
tells how far the session is. It is begun by a `begin`, which is answered `ok`,
and collects until it is left or an error ends it. While it collects, the parts
of a draft are answered `ok`, recipients exactly when they can be read and the
room accepts them.

A line hands over an email exactly when it is a `send` to a session that
collects and was told all that an email needs, and then the email is the one it
was told. The `send` is answered `ok` exactly when the room takes this email.
Without one it names the part that is missing. Every other line leaves the room
alone and does not depend on what the room would deliver. Before `begin` and
behind the end of the session nothing is handed over, and the end is final.
-/
theorem hands_over_what_was_told
    (turns : List (MailRoom × String))
    (room : MailRoom)
    (line : String) :
    let recorded := start.afterAll turns
    let session := recorded.session
    let answer := session.process room line
    (session.phase = .awaitBegin ↔ turns = []) ∧
      (session.phase = .collecting ↔ Collects turns) ∧
      (turns = [] → line = "begin" →
        answer.reply = Reply.ok ∧ answer.session.phase = .collecting) ∧
      (Collects turns →
        (answer.session.phase = .collecting ↔
            Continues recorded.transcript room line) ∧
          (answer.session.phase = .collecting ↔
            line ≠ "quit" ∧
              ∀ failure, answer.result = .error failure →
                failure.endsSession = false) ∧
          (∀ text,
            line = "from " ++ text ∨ line = "subject " ++ text ∨
                line = "data " ++ text →
              answer.reply = Reply.ok) ∧
          ∀ list, line = "to " ++ list →
            (answer.reply.isOk = true ↔
              ∃ recipients count,
                readRecipients list = .ok recipients ∧
                  room.accept recipients = .ok count)) ∧
      (∀ email,
        session.handed? line = some email ↔
          session.phase = .collecting ∧ line = "send" ∧
            Transcript.email recorded.transcript = .ok email) ∧
      (∀ email, session.handed? line = some email →
        email.recipients ≠ [] ∧
          (∀ recipient ∈ email.recipients, recipient.IsValid) ∧
          answer =
            match room.deliver email with
            | .ok later =>
                ⟨.ok Reply.ok, session.reset, later⟩
            | .error failure =>
                ⟨.error failure,
                  if failure.endsSession then session.close else session,
                  room⟩) ∧
      (line = "send" →
        (answer.reply = Reply.ok ↔
          ∃ email later,
            session.handed? line = some email ∧
              room.deliver email = .ok later ∧ answer.room = later)) ∧
      (session.phase = .collecting → line = "send" →
        ∀ field, Transcript.email recorded.transcript = .error field →
          field ≠ .subject ∧ session.handed? line = none ∧
            answer = ⟨.error (.missingField field), session, room⟩) ∧
      (session.handed? line = none →
        answer.room = room ∧
          ∀ other : MailRoom,
            (∀ recipients,
              other.accept recipients = room.accept recipients) →
            session.process other line = { answer with room := other }) ∧
      (session.phase ≠ .collecting → session.handed? line = none) ∧
      (session.phase = .closed →
        answer = ⟨.error .protocolViolation, session, room⟩) := by
  intro recorded session answer
  have faithful : Faithful recorded :=
    faithful_afterAll Faithful.start turns
  have asked (email : Email) :
      session.handed? line = some email ↔
        session.phase = .collecting ∧ line = "send" ∧
          Transcript.email recorded.transcript = .ok email := by
    rw [← Command.ofLine_eq_send_iff]
    exact handed?_eq_some_iff faithful
  have idle (apart : session.phase ≠ .collecting) :
      session.handed? line = none :=
    Option.eq_none_iff_forall_ne_some.2 fun email handed =>
      apart ((asked email).1 handed).1
  refine ⟨phase_afterAll_start_iff, phase_afterAll_start_eq_collecting_iff,
    ?_, ?_, asked, ?_, ?_, ?_, ?_, idle,
    fun closed => Session.process_of_closed closed room line⟩
  · rintro rfl rfl
    have begun : answer = ⟨.ok Reply.ok, Session.start.begin, room⟩ :=
      (Succeeds.begun rfl).process_line
    rw [begun]
    exact ⟨rfl, rfl⟩
  · intro history
    have collects := phase_afterAll_start_eq_collecting_iff.2 history
    refine
      ⟨⟨continues_of_phase faithful collects,
          phase_of_continues faithful collects⟩,
        Session.phase_process_eq_collecting_iff collects, ?_, ?_⟩
    · rintro text (rfl | rfl | rfl)
      · exact congrArg Answer.reply (Succeeds.signed text collects).process_line
      · exact congrArg Answer.reply (Succeeds.titled text collects).process_line
      · exact congrArg Answer.reply (Succeeds.filled text collects).process_line
    · rintro list rfl
      exact Session.isOk_reply_process_to_iff collects
  · intro email handed
    obtain ⟨_, _, complete⟩ := (asked email).1 handed
    obtain ⟨somebody, valid⟩ :=
      Transcript.valid_recipients_of_email complete
    exact ⟨somebody, valid, Session.process_of_handed handed room⟩
  · intro sends
    exact Session.reply_process_eq_ok_iff (Command.ofLine_eq_send_iff.2 sends)
  · intro collects sends field missing
    have noEmail : session.handed? line = none :=
      Option.eq_none_iff_forall_ne_some.2 fun email handed => by
        cases missing.symm.trans ((asked email).1 handed).2.2
    have undrafted : session.draft.email = .error field :=
      (faithful.email_eq collects).trans missing
    exact
      ⟨Transcript.ne_subject_of_email missing, noEmail,
        Session.process_of_missing collects
          (Command.ofLine_eq_send_iff.2 sends) undrafted room⟩
  · intro noEmail
    have same : answer = { answer with room := room } :=
      Session.process_of_not_handed noEmail fun _ => rfl
    exact
      ⟨congrArg Answer.room same, fun other accepts =>
        Session.process_of_not_handed noEmail accepts⟩

/--
Two emails in one session of a mailbox server. The second goes to the recipients
that were accepted behind those that were refused, and has no subject of the first.
-/
theorem hands_over_what_was_told_twice :
    let room : MailRoom :=
      ⟨.mailbox "d", .ofList [("s", "p"), ("x", "q")], .empty, []⟩
    let turns :=
      ["begin", "to s@d", "from s@e", "subject t", "data 1", "send",
        "to y@d", "to x@D, z@e", "from s@e", "data 2"].map
          fun line => (room, line)
    let session := (start.afterAll turns).session
    let answer := session.process room "send"
    let email : Email :=
      ⟨[⟨"x", "D"⟩, ⟨"z", "e"⟩], "s@e", "(empty subject)", "2"⟩
    Collects turns ∧
      session.handed? "send" = some email ∧
      answer.reply = Reply.ok ∧
      answer.session.phase = .collecting ∧
      answer.room.store.mailbox? "x" = some [(0, email)] := by
  intro room turns session answer email
  obtain ⟨_, phase, _, whileCollecting, handed, delivered, _⟩ :=
    hands_over_what_was_told turns room "send"
  have collecting : session.phase = .collecting := by
    decide +kernel
  have asked :
      Transcript.email (start.afterAll turns).transcript = .ok email := by
    decide +kernel
  have handedOver : session.handed? "send" = some email :=
    (handed email).2 ⟨collecting, rfl, asked⟩
  have history : Collects turns :=
    phase.1 collecting
  let later : MailRoom :=
    { room with store := (room.store.deposit "x" email).2 }
  have taken : room.deliver email = .ok later := by
    rfl
  have outcome := (delivered email handedOver).2.2
  rw [taken] at outcome
  have answered : answer = ⟨.ok Reply.ok, session.reset, later⟩ :=
    outcome
  refine
    ⟨history, handedOver, congrArg Answer.reply answered,
      (whileCollecting history).1.2 (.sent asked taken), ?_⟩
  rw [answered]
  decide

end Recorded

end Postroom.Submission
