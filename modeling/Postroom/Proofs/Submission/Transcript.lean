import Postroom.Proofs.Submission.Wording

namespace Postroom.Submission

/-!
# What a session was told

A transcript keeps the lines of a client with their replies. The email that
the client asks for is read off the transcript alone: it has the parts that
were given last, since the draft was begun or the one before it was sent. A
session that collects holds exactly this draft, so what it hands to its mail
room is what it was told, whatever else happened to the room between the lines.
-/

/-- A line of a client and the reply that it got. -/
structure Exchange where
  line : String
  reply : Reply
  deriving Repr, DecidableEq

namespace Exchange

/-- Whether a draft begins behind the exchange. -/
def startsDraft (exchange : Exchange) : Bool :=
  match Command.ofLine exchange.line with
  | .begin | .send =>
      exchange.reply == Reply.ok
  | _ =>
      false

/-- The recipients that were given, if the server accepted them. -/
def recipients? (exchange : Exchange) : Option (List Address) :=
  match Command.ofLine exchange.line with
  | .to list =>
      if exchange.reply.isOk then
        (readRecipients list).toOption
      else
        none
  | _ =>
      none

/-- The sender that was given. -/
def sender? (exchange : Exchange) : Option String :=
  match Command.ofLine exchange.line with
  | .sender text =>
      some text
  | _ =>
      none

/-- The subject that was given. -/
def subject? (exchange : Exchange) : Option String :=
  match Command.ofLine exchange.line with
  | .subject text =>
      some text
  | _ =>
      none

/-- The data that were given. -/
def data? (exchange : Exchange) : Option String :=
  match Command.ofLine exchange.line with
  | .data text =>
      some text
  | _ =>
      none

section Given

variable {exchange : Exchange}

/-- The list of recipients that were given was read. -/
theorem recipients?_eq_some
    {recipients : List Address}
    (given : exchange.recipients? = some recipients) :
    ∃ list,
      exchange.line = "to " ++ list ∧
        readRecipients list = .ok recipients := by
  unfold recipients? at given
  split at given
  · rename_i list read
    split at given
    · refine ⟨list, Command.eq_line_of_ofLine read, ?_⟩
      cases listed : readRecipients list with
      | error failure =>
          simp [listed, Except.toOption] at given
      | ok recipients =>
          simpa [listed, Except.toOption] using given
    · cases given
  · cases given

theorem sender?_eq_some
    {text : String}
    (given : exchange.sender? = some text) :
    exchange.line = "from " ++ text := by
  unfold sender? at given
  split at given
  · rename_i read
    cases given
    exact Command.eq_line_of_ofLine read
  · cases given

theorem subject?_eq_some
    {text : String}
    (given : exchange.subject? = some text) :
    exchange.line = "subject " ++ text := by
  unfold subject? at given
  split at given
  · rename_i read
    cases given
    exact Command.eq_line_of_ofLine read
  · cases given

theorem data?_eq_some
    {text : String}
    (given : exchange.data? = some text) :
    exchange.line = "data " ++ text := by
  unfold data? at given
  split at given
  · rename_i read
    cases given
    exact Command.eq_line_of_ofLine read
  · cases given

end Given

end Exchange

/-- An email whose parts were told by lines of a certain kind. -/
structure Told
    (said : String → Prop)
    (email : Email) : Prop where
  recipients :
    ∃ list,
      said ("to " ++ list) ∧ readRecipients list = .ok email.recipients
  sender : said ("from " ++ email.sender)
  subject :
    email.subject = emptySubject ∨ said ("subject " ++ email.subject)
  data : said ("data " ++ email.data)

namespace Transcript

/-- What was said since the draft was begun. -/
def current (transcript : List Exchange) : List Exchange :=
  (transcript.reverse.takeWhile (!·.startsDraft)).reverse

/-- What the last exchange about the draft gave, of those that gave something. -/
def last?
    (given? : Exchange → Option α)
    (transcript : List Exchange) :
    Option α :=
  ((current transcript).filterMap given?).getLast?

/-- The email that was asked for, or the first part that was left out. -/
def email (transcript : List Exchange) : Except DraftField Email :=
  match last? Exchange.recipients? transcript,
    last? Exchange.sender? transcript,
    last? Exchange.data? transcript with
  | none, _, _ =>
      .error .recipients
  | some _, none, _ =>
      .error .sender
  | some _, some _, none =>
      .error .data
  | some recipients, some sender, some data =>
      .ok
        ⟨recipients, sender,
          (last? Exchange.subject? transcript).getD emptySubject, data⟩

/-- The parts that were given for the draft. -/
def draft (transcript : List Exchange) : Draft where
  recipients :=
    last? Exchange.recipients? transcript
  sender :=
    last? Exchange.sender? transcript
  subject :=
    some ((last? Exchange.subject? transcript).getD emptySubject)
  data :=
    last? Exchange.data? transcript

/-- A draft whose parts were given is the email that was asked for. -/
theorem email_draft (transcript : List Exchange) :
    (draft transcript).email = email transcript := by
  unfold draft Draft.email email
  cases last? Exchange.recipients? transcript with
  | none =>
      rfl
  | some recipients =>
      cases last? Exchange.sender? transcript with
      | none =>
          rfl
      | some sender =>
          cases last? Exchange.data? transcript <;> rfl

section Concat

variable
  {transcript : List Exchange}
  {exchange : Exchange}

/-- Behind an exchange that starts a draft, nothing was said about it yet. -/
theorem draft_concat_of_starts (starts : exchange.startsDraft = true) :
    draft (transcript ++ [exchange]) = .fresh := by
  have nothing : current (transcript ++ [exchange]) = [] := by
    simp [current, starts]
  simp [draft, last?, nothing, Draft.fresh]

/-- Any other exchange adds to what was said about the draft. -/
theorem last?_concat
    (goesOn : exchange.startsDraft = false)
    (given? : Exchange → Option α) :
    last? given? (transcript ++ [exchange]) =
      (given? exchange).or (last? given? transcript) := by
  have longer :
      current (transcript ++ [exchange]) =
        current transcript ++ [exchange] := by
    simp [current, goesOn]
  cases given : given? exchange <;>
    simp [last?, longer, given]

/-- What an exchange gives takes the place of what was given before. -/
theorem draft_concat (goesOn : exchange.startsDraft = false) :
    draft (transcript ++ [exchange]) =
      { recipients := exchange.recipients?.or (draft transcript).recipients
        sender := exchange.sender?.or (draft transcript).sender
        subject := exchange.subject?.or (draft transcript).subject
        data := exchange.data?.or (draft transcript).data } := by
  have subject :
      some
          ((last? Exchange.subject? (transcript ++ [exchange])).getD
            emptySubject) =
        exchange.subject?.or (draft transcript).subject := by
    rw [last?_concat goesOn]
    cases exchange.subject? <;> rfl
  simp only [draft, last?_concat goesOn] at subject ⊢
  rw [subject]

end Concat

/-- A subject is never missed. -/
theorem ne_subject_of_email
    {transcript : List Exchange}
    {field : DraftField}
    (missing : email transcript = .error field) :
    field ≠ .subject := by
  rintro rfl
  unfold email at missing
  split at missing <;> cases missing

/-- What was given last stands in the transcript. -/
theorem mem_of_last?
    {given? : Exchange → Option α}
    {transcript : List Exchange}
    {value : α}
    (given : last? given? transcript = some value) :
    ∃ exchange ∈ transcript, given? exchange = some value := by
  obtain ⟨exchange, member, gives⟩ :=
    List.mem_filterMap.1 (List.mem_of_getLast? given)
  have inTranscript : exchange ∈ transcript := by
    rw [current, List.mem_reverse] at member
    exact List.mem_reverse.1 (List.takeWhile_subset _ member)
  exact ⟨exchange, inTranscript, gives⟩

section Complete

variable
  {transcript : List Exchange}
  {asked : Email}
  (complete : email transcript = .ok asked)

include complete

/-- Every part of an email that was asked for was given, but for a subject. -/
theorem last?_of_email :
    last? Exchange.recipients? transcript = some asked.recipients ∧
      last? Exchange.sender? transcript = some asked.sender ∧
      (last? Exchange.subject? transcript).getD emptySubject =
        asked.subject ∧
      last? Exchange.data? transcript = some asked.data := by
  unfold email at complete
  split at complete
  · cases complete
  · cases complete
  · cases complete
  · rename_i recipients sender data
    cases complete
    exact ⟨recipients, sender, rfl, data⟩

/-- An email that was asked for was told by lines of the transcript. -/
theorem told_of_email :
    Told (fun line => ∃ exchange ∈ transcript, exchange.line = line) asked := by
  obtain ⟨recipients, sender, subject, data⟩ := last?_of_email complete
  constructor
  case recipients =>
    obtain ⟨exchange, member, given⟩ := mem_of_last? recipients
    obtain ⟨list, line, read⟩ := Exchange.recipients?_eq_some given
    exact ⟨list, ⟨exchange, member, line⟩, read⟩
  case sender =>
    obtain ⟨exchange, member, given⟩ := mem_of_last? sender
    exact ⟨exchange, member, Exchange.sender?_eq_some given⟩
  case subject =>
    cases titled : last? Exchange.subject? transcript with
    | none =>
        rw [titled] at subject
        exact Or.inl subject.symm
    | some text =>
        obtain ⟨exchange, member, given⟩ := mem_of_last? titled
        rw [titled] at subject
        exact
          Or.inr
            ⟨exchange, member, subject ▸ Exchange.subject?_eq_some given⟩
  case data =>
    obtain ⟨exchange, member, given⟩ := mem_of_last? data
    exact ⟨exchange, member, Exchange.data?_eq_some given⟩

/-- The recipients that were asked for can be read, and there is at least one. -/
theorem valid_recipients_of_email :
    asked.recipients ≠ [] ∧
      ∀ recipient ∈ asked.recipients, recipient.IsValid := by
  obtain ⟨list, _, read⟩ := (told_of_email complete).recipients
  exact
    ⟨ne_nil_of_readRecipients read, (readRecipients_eq_ok_iff.1 read).2⟩

end Complete

end Transcript

namespace Session

/-- The email that a line makes the session hand to its mail room, if it does. -/
def handed?
    (session : Session)
    (line : String) :
    Option Email :=
  match session.phase, Command.ofLine line with
  | .collecting, .send =>
      session.buildEmail.toOption
  | _, _ =>
      none

section Handing

variable
  {session : Session}
  {line : String}

/-- Only `send` hands an email over, and only while the session collects. -/
theorem handed?_eq_some_iff {email : Email} :
    session.handed? line = some email ↔
      session.phase = .collecting ∧ Command.ofLine line = .send ∧
        session.draft.email = .ok email := by
  unfold handed?
  split
  · rename_i phase sends
    rw [← buildEmail_eq_ok_iff]
    cases session.buildEmail <;> simp [Except.toOption, phase, sends]
  · rename_i otherwise
    constructor
    · intro handed
      cases handed
    · rintro ⟨phase, sends, _⟩
      exact absurd sends (otherwise phase)

/-- What becomes of an email that is handed over is for the room to say. -/
theorem process_of_handed
    {email : Email}
    (handed : session.handed? line = some email)
    (room : MailRoom) :
    session.process room line =
      match room.deliver email with
      | .ok later =>
          ⟨.ok Reply.ok, session.reset, later⟩
      | .error failure =>
          ⟨.error failure,
            if failure.endsSession then session.close else session,
            room⟩ := by
  obtain ⟨phase, sends, built⟩ := handed?_eq_some_iff.1 handed
  have complete : session.buildEmail = .ok email :=
    buildEmail_eq_ok_iff.2 built
  cases delivered : room.deliver email <;>
    simp [process, perform, phase, sends, send, complete, delivered,
      bind, Except.bind, pure, Except.pure, Except.map]

/-- A draft that lacks a part is not handed over, and stays as it is. -/
theorem process_of_missing
    (phase : session.phase = .collecting)
    (sends : Command.ofLine line = .send)
    {field : DraftField}
    (missing : session.draft.email = .error field)
    (room : MailRoom) :
    session.process room line =
      ⟨.error (.missingField field), session, room⟩ := by
  simp [process, perform, phase, sends, send, buildEmail, missing,
    bind, Except.bind, Except.map, Error.endsSession]

/-- Without handing an email over, a line asks a room for its recipients only. -/
theorem process_of_not_handed
    (idle : session.handed? line = none)
    {room other : MailRoom}
    (accepts :
      ∀ recipients, other.accept recipients = room.accept recipients) :
    session.process other line =
      { session.process room line with room := other } := by
  have performed :
      session.perform other (Command.ofLine line) =
        (session.perform room (Command.ofLine line)).map
          fun (reply, next, _) => (reply, next, other) := by
    unfold perform
    split
    · rfl
    · rfl
    · rename_i list _ _
      have same :
          session.addressTo other list = session.addressTo room list := by
        simp only [addressTo, accepts]
      rw [same]
      cases session.addressTo room list <;> rfl
    · rfl
    · rfl
    · rfl
    · rename_i phase sends
      cases built : session.buildEmail with
      | error failure =>
          simp [send, built, bind, Except.bind, Except.map]
      | ok email =>
          simp [handed?, phase, sends, built, Except.toOption] at idle
    · rfl
    · rfl
    · rfl
    · rfl
  unfold process
  rw [performed]
  cases session.perform room (Command.ofLine line) <;> rfl

/-- A `send` is answered `ok` exactly when the room takes the email handed over. -/
theorem reply_process_eq_ok_iff
    (sends : Command.ofLine line = .send)
    {room : MailRoom} :
    (session.process room line).reply = Reply.ok ↔
      ∃ email later,
        session.handed? line = some email ∧
          room.deliver email = .ok later ∧
          (session.process room line).room = later := by
  constructor
  · intro agreed
    rcases session.process_cases room line with
      ⟨command, reply, next, later, rfl, succeeds, answer⟩ |
      ⟨failure, _, answer⟩
    · rw [sends] at succeeds
      cases succeeds with
      | sent phase built delivered =>
          exact
            ⟨_, later, handed?_eq_some_iff.2 ⟨phase, sends, built⟩,
              delivered, congrArg Answer.room answer⟩
    · rw [answer] at agreed
      exact absurd agreed (Reply.error_ne_ok failure.message)
  · rintro ⟨email, later, handed, delivered, _⟩
    simp only [process_of_handed handed, delivered]
    rfl

end Handing

/-- An error leaves the session open only while it collects, and only at two commands. -/
theorem command_of_perform_eq_error
    {session : Session}
    {room : MailRoom}
    {command : Command}
    {failure : Error}
    (failed : session.perform room command = .error failure)
    (goesOn : failure.endsSession = false) :
    session.phase = .collecting ∧
      ((∃ list, command = .to list) ∨ command = .send) := by
  unfold perform at failed
  split at failed
  · cases failed
  · cases failed
    cases goesOn
  · rename_i list phase
    exact ⟨phase, Or.inl ⟨list, rfl⟩⟩
  · cases failed
  · cases failed
  · cases failed
  · rename_i phase
    exact ⟨phase, Or.inr rfl⟩
  · cases failed
  · cases failed
    cases goesOn
  · cases failed
    cases goesOn
  · cases failed
    cases goesOn

/-- A session that was told anything waits for `begin` no more. -/
theorem phase_process_ne_awaitBegin
    (session : Session)
    (room : MailRoom)
    (line : String) :
    (session.process room line).session.phase ≠ .awaitBegin := by
  rcases session.process_cases room line with
    ⟨command, reply, next, later, _, succeeds, answer⟩ |
    ⟨failure, failed, answer⟩
  · rw [answer]
    cases succeeds with
    | begun phase | left phase =>
        intro awaits
        cases awaits
    | addressed phase | signed text phase | titled text phase
    | filled text phase | sent phase =>
        intro awaits
        cases phase.symm.trans awaits
  · rw [answer]
    cases goesOn : failure.endsSession with
    | true =>
        intro awaits
        cases awaits
    | false =>
        obtain ⟨phase, _⟩ := command_of_perform_eq_error failed goesOn
        intro awaits
        cases phase.symm.trans awaits

/-- A closed session answers every line by the same error. -/
theorem process_of_closed
    {session : Session}
    (closed : session.phase = .closed)
    (room : MailRoom)
    (line : String) :
    session.process room line =
      ⟨.error .protocolViolation, session, room⟩ := by
  have same : session.close = session := by
    rw [close, ← closed]
  simp [process, perform, closed, Error.endsSession, same]

end Session

/-- A session with the transcript of what it was told. -/
structure Recorded where
  transcript : List Exchange
  session : Session

namespace Recorded

/-- The session of a new client, to which nothing was said. -/
def start : Recorded :=
  ⟨[], .start⟩

/-- The session behind a line, which finds the mail room in some state. -/
def after
    (recorded : Recorded)
    (turn : MailRoom × String) :
    Recorded :=
  let answer := recorded.session.process turn.1 turn.2
  ⟨recorded.transcript ++ [⟨turn.2, answer.reply⟩], answer.session⟩

/-- The session behind some lines. -/
def afterAll
    (recorded : Recorded)
    (turns : List (MailRoom × String)) :
    Recorded :=
  turns.foldl after recorded

/-- The draft of a session is the one that the transcript tells. -/
structure Faithful (recorded : Recorded) : Prop where
  untold :
    recorded.session.phase = .awaitBegin →
    recorded.session.draft = .fresh
  told :
    recorded.session.phase = .collecting →
    recorded.session.draft = Transcript.draft recorded.transcript

namespace Faithful

theorem start : Faithful .start where
  untold _ :=
    rfl
  told collects := by
    cases collects

variable
  {transcript : List Exchange}
  {session : Session}
  {room : MailRoom}
  {line : String}
  (faithful : Faithful ⟨transcript, session⟩)

include faithful

/-- While a session collects, its draft takes in what an exchange gives. -/
theorem given
    {exchange : Exchange}
    (goesOn : exchange.startsDraft = false)
    (collects : session.phase = .collecting)
    {next : Session}
    (collectsOn : next.phase = .collecting)
    (drafted :
      next.draft =
        { recipients := exchange.recipients?.or session.draft.recipients
          sender := exchange.sender?.or session.draft.sender
          subject := exchange.subject?.or session.draft.subject
          data := exchange.data?.or session.draft.data }) :
    Faithful ⟨transcript ++ [exchange], next⟩ where
  untold awaits := by
    simp only [collectsOn] at awaits
    cases awaits
  told _ := by
    have before : session.draft = Transcript.draft transcript :=
      faithful.told collects
    rw [Transcript.draft_concat goesOn, ← before]
    exact drafted

/-- A command that succeeds changes the draft as the transcript tells. -/
theorem succeeded
    {reply : Reply}
    {next : Session}
    {later : MailRoom}
    (succeeds :
      Succeeds session room (Command.ofLine line) reply next later) :
    Faithful ⟨transcript ++ [⟨line, reply⟩], next⟩ := by
  generalize read : Command.ofLine line = command at succeeds
  cases succeeds with
  | begun phase =>
      have starts : (Exchange.mk line Reply.ok).startsDraft = true := by
        simp [Exchange.startsDraft, read]
      exact
        { untold := fun awaits => by cases awaits
          told := fun _ =>
            (faithful.untold phase).trans
              (Transcript.draft_concat_of_starts starts).symm }
  | addressed phase listed accepted =>
      refine faithful.given ?_ phase phase ?_
      · simp [Exchange.startsDraft, read]
      · simp [Exchange.recipients?, Exchange.sender?, Exchange.subject?,
          Exchange.data?, read, listed, Reply.isOk_okWith,
          Except.toOption, Session.setRecipients]
  | signed text phase =>
      refine faithful.given ?_ phase phase ?_
      · simp [Exchange.startsDraft, read]
      · simp [Exchange.recipients?, Exchange.sender?, Exchange.subject?,
          Exchange.data?, read, Session.setSender]
  | titled text phase =>
      refine faithful.given ?_ phase phase ?_
      · simp [Exchange.startsDraft, read]
      · simp [Exchange.recipients?, Exchange.sender?, Exchange.subject?,
          Exchange.data?, read, Session.setSubject]
  | filled text phase =>
      refine faithful.given ?_ phase phase ?_
      · simp [Exchange.startsDraft, read]
      · simp [Exchange.recipients?, Exchange.sender?, Exchange.subject?,
          Exchange.data?, read, Session.setData]
  | sent phase built delivered =>
      have starts : (Exchange.mk line Reply.ok).startsDraft = true := by
        simp [Exchange.startsDraft, read]
      exact
        { untold := fun _ => rfl
          told := fun _ =>
            (Transcript.draft_concat_of_starts starts).symm }
  | left phase =>
      exact
        { untold := fun awaits => by cases awaits
          told := fun collects => by cases collects }

/-- A command that fails closes the session or leaves its draft alone. -/
theorem failed
    {failure : Error}
    (failed :
      session.perform room (Command.ofLine line) = .error failure) :
    Faithful
      ⟨transcript ++ [⟨line, failure.reply⟩],
        if failure.endsSession then session.close else session⟩ := by
  cases goesOn : failure.endsSession with
  | true =>
      exact
        { untold := fun awaits => by cases awaits
          told := fun collects => by cases collects }
  | false =>
      have refused : failure.reply.isOk = false :=
        Reply.isOk_error failure.message
      have notOk : failure.reply ≠ Reply.ok :=
        Reply.error_ne_ok failure.message
      obtain ⟨phase, command⟩ :=
        Session.command_of_perform_eq_error failed goesOn
      rcases command with ⟨list, read⟩ | read
      all_goals
        refine faithful.given ?_ phase phase ?_
        · simp [Exchange.startsDraft, read, notOk]
        · simp [Exchange.recipients?, Exchange.sender?, Exchange.subject?,
            Exchange.data?, read, refused]

/-- Every line keeps the draft and the transcript in step. -/
theorem after (turn : MailRoom × String) :
    Faithful (Recorded.after ⟨transcript, session⟩ turn) := by
  obtain ⟨room, line⟩ := turn
  unfold Recorded.after
  rcases session.process_cases room line with
    ⟨command, reply, next, later, rfl, succeeds, answer⟩ |
    ⟨failure, failed, answer⟩
  · rw [answer]
    exact faithful.succeeded succeeds
  · rw [answer]
    exact faithful.failed failed

end Faithful

/-- So do all lines, whatever room each of them finds. -/
theorem faithful_afterAll
    {recorded : Recorded}
    (faithful : Faithful recorded)
    (turns : List (MailRoom × String)) :
    Faithful (recorded.afterAll turns) := by
  induction turns generalizing recorded with
  | nil =>
      exact faithful
  | cons turn rest inductionHypothesis =>
      exact inductionHypothesis (faithful.after turn)

/-- While a session collects, its draft is the email that was asked for. -/
theorem Faithful.email_eq
    {recorded : Recorded}
    (faithful : Faithful recorded)
    (collects : recorded.session.phase = .collecting) :
    recorded.session.draft.email = Transcript.email recorded.transcript := by
  rw [faithful.told collects, Transcript.email_draft]

/-- What a session hands over is what its transcript asks for. -/
theorem handed?_eq_some_iff
    {recorded : Recorded}
    (faithful : Faithful recorded)
    {line : String}
    {email : Email} :
    recorded.session.handed? line = some email ↔
      recorded.session.phase = .collecting ∧
        Command.ofLine line = .send ∧
        Transcript.email recorded.transcript = .ok email := by
  rw [Session.handed?_eq_some_iff]
  refine and_congr_right fun collects => and_congr_right fun _ => ?_
  rw [faithful.email_eq collects]

/-- Only a session that was told nothing waits for `begin`. -/
theorem phase_afterAll_start_iff {turns : List (MailRoom × String)} :
    (start.afterAll turns).session.phase = .awaitBegin ↔ turns = [] := by
  rcases List.eq_nil_or_concat turns with rfl | ⟨earlier, last, rfl⟩
  · exact iff_of_true rfl rfl
  · refine iff_of_false ?_ (by simp)
    rw [afterAll, List.concat_eq_append, List.foldl_append]
    exact Session.phase_process_ne_awaitBegin _ _ _

end Recorded

end Postroom.Submission
