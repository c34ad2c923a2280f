import Postroom.Proofs.Submission.Agreement
import Postroom.Proofs.Submission.Transcript
import Postroom.Proofs.Wire.Reading
import Postroom.Proofs.Wire.Turns

namespace Postroom.Submission

/-!
# Whether queued mail can be passed on

A server that queues mail takes an email from lines of its client, and another
client has to write the same parts on lines again. No line is broken by that,
and the recipients always fit again. The other parts are texts that stand for
the bytes that were received, and such a text has more bytes than were received
when some of them were no text. So an email can be passed on when its client
sent nothing but text, and in general exactly when these parts still fit.
-/

/-- Of the line that carries data, five bytes are no data. -/
theorem fits_data_iff {data : String} :
    Wire.Fits ("data " ++ data) ↔
      5 + (Text.encode data).length ≤ Wire.lineLimit := by
  have keyword : (Text.encode "data ").length = 5 := by
    decide
  rw [Wire.Fits, Text.encode_append, List.length_append, keyword]

/-- Whatever follows it, each line that submits the email is read as it was written. -/
def Relayable (email : Email) : Prop :=
  ∀ command ∈ commandsFor email,
    '\n' ∉ command.line.toList ∧
      Wire.Fits command.line ∧
      ∀ rest,
        Wire.readLine? (Wire.sendLine command.line ++ rest) =
          some (.line command.line, rest)

/-- An email in words can be passed on when its lines fit. -/
theorem Speakable.relayable_iff
    {email : Email}
    (speakable : Speakable email) :
    Relayable email ↔ Carried email := by
  constructor
  · intro relayable
    exact
      ⟨(relayable (.to email.recipientList) (by simp [commandsFor])).2.1,
        (relayable (.sender email.sender) (by simp [commandsFor])).2.1,
        (relayable (.subject email.subject) (by simp [commandsFor])).2.1,
        (relayable (.data email.data) (by simp [commandsFor])).2.1⟩
  · intro carried command member
    have isLine := (speakable.spoken member).isLine_line
    have fits : Wire.Fits command.line := by
      simp only [commandsFor, List.mem_cons, List.not_mem_nil, or_false]
        at member
      rcases member with rfl | rfl | rfl | rfl | rfl | rfl
      · decide
      · exact carried.recipients
      · exact carried.sender
      · exact carried.subject
      · exact carried.data
      · decide
    exact
      ⟨isLine.1, fits, fun rest => Wire.readLine?_sendLine rest isLine fits⟩

namespace Told

variable
  {said : String → Prop}
  {email : Email}
  (told : Told said email)

include told

theorem imp
    {other : String → Prop}
    (weaker : ∀ line, said line → other line) :
    Told other email where
  recipients :=
    told.recipients.imp fun _ => And.imp_left (weaker _)
  sender :=
    weaker _ told.sender
  subject :=
    told.subject.imp_right (weaker _)
  data :=
    weaker _ told.data

/-- What was told on lines can be put on lines. -/
theorem speakable (isLine : ∀ line, said line → Wire.IsLine line) :
    Speakable email := by
  obtain ⟨list, _, read⟩ := told.recipients
  constructor
  case addressed =>
    exact ne_nil_of_readRecipients read
  case valid =>
    exact (readRecipients_eq_ok_iff.1 read).2
  case sender =>
    exact (isLine _ told.sender).of_append
  case subject =>
    rcases told.subject with untitled | said
    · rw [untitled]
      decide
    · exact (isLine _ said).of_append
  case data =>
    exact (isLine _ told.data).of_append

/-- The recipients fit when the lines had no more characters than a line has bytes. -/
theorem fits_recipients
    (short :
      ∀ line, said line → line.toList.length ≤ Wire.lineLimit) :
    Wire.Fits ("to " ++ email.recipientList) := by
  obtain ⟨list, said, read⟩ := told.recipients
  have bytes :=
    length_encode_joinAddresses (readRecipients_eq_ok_iff.1 read).2
  have written := length_joinAddresses_le read
  have line := short _ said
  have keyword : (Text.encode "to ").length = "to ".toList.length := by
    decide
  rw [String.toList_append, List.length_append] at line
  rw [Wire.Fits, Text.encode_append, List.length_append, keyword,
    Email.recipientList, bytes]
  omega

/-- What was told on lines that fit is carried by lines. -/
theorem carried
    (short :
      ∀ line, said line → line.toList.length ≤ Wire.lineLimit)
    (fits : ∀ line, said line → Wire.Fits line) :
    Carried email where
  recipients :=
    told.fits_recipients short
  sender :=
    fits _ told.sender
  subject := by
    rcases told.subject with untitled | said
    · rw [untitled]
      decide
    · exact fits _ said
  data :=
    fits _ told.data

end Told

section Serving

/-- A room that queues mail takes every email that is handed over, and nothing else. -/
theorem Session.queue_process
    {room : MailRoom}
    (intake : room.intake = .queue)
    (session : Session)
    (line : String) :
    (session.process room line).room.queue =
      room.queue ++ (session.handed? line).toList := by
  cases handed : session.handed? line with
  | none =>
      have same :
          session.process room line =
            { session.process room line with room := room } :=
        process_of_not_handed handed fun _ => rfl
      rw [same]
      simp
  | some email =>
      rw [process_of_handed handed, MailRoom.deliver_queue intake]
      rfl

/-- What a server queues was told by lines that came in before an overlong one. -/
theorem told_of_answerAll
    {recorded : Recorded}
    (faithful : Recorded.Faithful recorded)
    {room : MailRoom}
    (intake : room.intake = .queue)
    (isOpen : Bool)
    (messages : List Wire.Incoming) :
    let last :=
      (Wire.answerAll Wire.submission ⟨recorded.session, room, isOpen⟩
        messages).2
    ∃ taken,
      last.room.queue = room.queue ++ taken ∧
        ∀ email ∈ taken,
          Told
            (fun line =>
              (∃ exchange ∈ recorded.transcript, exchange.line = line) ∨
                .line line ∈ Wire.untilOverlong messages)
            email := by
  induction messages generalizing recorded room isOpen with
  | nil =>
      exact ⟨[], by simp [Wire.answerAll], by simp⟩
  | cons message rest inductionHypothesis =>
      cases isOpen with
      | false =>
          rw [Wire.answerAll_of_closed _ _ rfl]
          exact ⟨[], by simp, by simp⟩
      | true =>
          cases message with
          | overlong =>
              simp only [Wire.answerAll, Wire.answer, ↓reduceIte]
              rw [Wire.answerAll_of_closed _ _ rfl]
              exact ⟨[], by simp, by simp⟩
          | line text =>
              have queued :=
                recorded.session.queue_process intake text
              have queues :
                  (recorded.session.process room text).room.intake = .queue :=
                (recorded.session.intake_users_process room text).1.trans
                  intake
              obtain ⟨taken, left, told⟩ :=
                inductionHypothesis (faithful.after (room, text)) queues
                  (!(recorded.session.process room text).ends)
              refine
                ⟨(recorded.session.handed? text).toList ++ taken, ?_, ?_⟩
              · rw [← List.append_assoc, ← queued]
                exact left
              · simp only [List.mem_append, Option.mem_toList]
                rintro email (handed | later)
                · obtain ⟨_, _, complete⟩ :=
                    (Recorded.handed?_eq_some_iff faithful).1 handed
                  exact
                    (Transcript.told_of_email complete).imp
                      fun _ => Or.inl
                · refine (told email later).imp ?_
                  rintro line (⟨exchange, member, rfl⟩ | behind)
                  · rcases List.mem_append.1 member with before | now
                    · exact Or.inl ⟨exchange, before, rfl⟩
                    · rw [List.mem_singleton] at now
                      subst now
                      exact Or.inr List.mem_cons_self
                  · exact Or.inr (List.mem_cons_of_mem _ behind)

/-- What a server queues was told by lines that came in before an overlong one. -/
theorem told_of_serve
    {room : MailRoom}
    (intake : room.intake = .queue)
    (stream : List UInt8) :
    ∃ taken,
      (Wire.serve Wire.submission room stream).2.queue =
          room.queue ++ taken ∧
        ∀ email ∈ taken,
          Told
            (fun line => .line line ∈ Wire.untilOverlong (Wire.incoming stream))
            email := by
  obtain ⟨taken, left, told⟩ :=
    told_of_answerAll Recorded.Faithful.start intake true
      (Wire.incoming stream)
  refine ⟨taken, left, fun email member => (told email member).imp ?_⟩
  rintro line (⟨_, nothing, _⟩ | behind)
  · cases nothing
  · exact behind

end Serving

/-- A line that came in could be written on a line, with no more characters than fit. -/
theorem line_of_mem_untilOverlong
    {stream : List UInt8}
    {line : String}
    (member : .line line ∈ Wire.untilOverlong (Wire.incoming stream)) :
    Wire.IsLine line ∧ line.toList.length ≤ Wire.lineLimit := by
  obtain ⟨left, later, read⟩ :=
    Wire.exists_readLine?_of_mem_incoming (Wire.mem_of_mem_untilOverlong member)
  exact ⟨Wire.isLine_of_readLine? read, Wire.length_le_of_readLine? read⟩

/--
Whatever a client sends, the emails that the server queues can be put on lines
again, and these lines are read as they were written if they fit. The line of
recipients always fits. All lines fit when the client sent the bytes of a text.
-/
theorem relayable_of_serve
    (users : UserTable)
    (store : Mailbox.Store)
    (queue : List Email)
    (stream : List UInt8) :
    let later :=
      (Wire.serve Wire.submission ⟨.queue, users, store, queue⟩ stream).2
    ∃ taken,
      later.queue = queue ++ taken ∧
        ∀ email ∈ taken,
          Speakable email ∧
            (∀ command ∈ commandsFor email,
              '\n' ∉ command.line.toList) ∧
            (Relayable email ↔
              Wire.Fits ("from " ++ email.sender) ∧
                Wire.Fits ("subject " ++ email.subject) ∧
                Wire.Fits ("data " ++ email.data)) ∧
            (Text.IsText stream → Relayable email) := by
  intro later
  obtain ⟨taken, left, told⟩ :=
    @told_of_serve ⟨.queue, users, store, queue⟩ rfl stream
  refine ⟨taken, left, fun email member => ?_⟩
  have toldEmail := told email member
  have speakable : Speakable email :=
    toldEmail.speakable fun _ said => (line_of_mem_untilOverlong said).1
  have short :
      ∀ line,
        .line line ∈ Wire.untilOverlong (Wire.incoming stream) →
        line.toList.length ≤ Wire.lineLimit :=
    fun _ said => (line_of_mem_untilOverlong said).2
  refine ⟨speakable, ?_, ?_, ?_⟩
  · exact fun command written => (speakable.spoken written).isLine_line.1
  · rw [speakable.relayable_iff]
    constructor
    · exact fun carried => ⟨carried.sender, carried.subject, carried.data⟩
    · rintro ⟨sender, subject, data⟩
      exact ⟨toldEmail.fits_recipients short, sender, subject, data⟩
  · intro isText
    exact
      speakable.relayable_iff.2 <|
        toldEmail.carried short fun _ => Wire.fits_of_mem_untilOverlong isText

section Commands

variable
  {session next : Session}
  {room later : MailRoom}

/-- A command that succeeds is answered, and the server goes on unless it is `quit`. -/
theorem answerAll_of_succeeds
    {command : Command}
    {reply : Reply}
    (succeeds : Succeeds session room command reply next later)
    (stays : command ≠ .quit)
    (rest : List Wire.Incoming) :
    (Wire.answerAll Wire.submission ⟨session, room, true⟩
        (.line command.line :: rest)).2 =
      (Wire.answerAll Wire.submission ⟨next, later, true⟩ rest).2 := by
  have goesOn : reply.isBye = false := by
    cases succeeds with
    | begun | signed | titled | filled | sent =>
        rfl
    | addressed =>
        exact isBye_okWith _
    | left =>
        exact absurd rfl stays
  have taken :
      Wire.submission.answer session room command.line =
        ⟨reply, false, next, later⟩ := by
    simp [Wire.submission, succeeds.process_line, Answer.reply, Answer.ends,
      goesOn]
  rw [Wire.answerAll_of_goesOn taken rfl]

/-- The commands of an email whose recipients are accepted leave the room behind it. -/
theorem answerAll_parts
    {list sender subject data : String}
    {recipients : List Address}
    {count : Nat}
    (read : readRecipients list = .ok recipients)
    (accepted : room.accept recipients = .ok count)
    (delivered :
      room.deliver ⟨recipients, sender, subject, data⟩ = .ok later)
    (rest : List Wire.Incoming) :
    (Wire.answerAll Wire.submission ⟨.start, room, true⟩
        (([.begin, .to list, .sender sender, .subject subject, .data data,
            .send] : List Command).map (.line ·.line) ++ rest)).2 =
      (Wire.answerAll Wire.submission ⟨⟨.collecting, .fresh⟩, later, true⟩
        rest).2 := by
  simp only [List.map_cons, List.map_nil, List.cons_append, List.nil_append]
  rw [answerAll_of_succeeds (.begun rfl) (by simp),
    answerAll_of_succeeds (.addressed rfl read accepted) (by simp),
    answerAll_of_succeeds (.signed sender rfl) (by simp),
    answerAll_of_succeeds (.titled subject rfl) (by simp),
    answerAll_of_succeeds (.filled data rfl) (by simp),
    answerAll_of_succeeds (.sent rfl rfl delivered) (by simp)]
  rfl

/-- The commands of an email that is accepted and taken leave the room behind it. -/
theorem answerAll_commandsFor
    {email : Email}
    (speakable : Speakable email)
    {count : Nat}
    (accepted : room.accept email.recipients = .ok count)
    (delivered : room.deliver email = .ok later) :
    (Wire.answerAll Wire.submission ⟨.start, room, true⟩
        ((commandsFor email).map (.line ·.line))).2.room =
      later := by
  have read :
      readRecipients email.recipientList = .ok email.recipients :=
    readRecipients_joinAddresses speakable.valid speakable.addressed
  exact congrArg Wire.Progress.room (answerAll_parts read accepted delivered [])

/-- A server that queues mail queues an email whose commands come in. -/
theorem queue_serve_of_incoming
    {email : Email}
    (speakable : Speakable email)
    (intake : room.intake = .queue)
    {stream : List UInt8}
    (arrived :
      Wire.incoming stream = (commandsFor email).map (.line ·.line)) :
    (Wire.serve Wire.submission room stream).2.queue =
      room.queue ++ [email] := by
  have taken :=
    answerAll_commandsFor speakable
      (MailRoom.accept_queue intake email.recipients)
      (MailRoom.deliver_queue intake email)
  rw [Wire.serve, arrived]
  exact congrArg MailRoom.queue taken

/-- What a client writes for an email whose lines fit brings it to the queue. -/
theorem queue_serve_commandsFor
    {email : Email}
    (speakable : Speakable email)
    (carried : Carried email)
    (intake : room.intake = .queue) :
    (Wire.serve Wire.submission room
        (((commandsFor email).map Command.line).flatMap Wire.sendLine)).2.queue =
      room.queue ++ [email] := by
  apply queue_serve_of_incoming speakable intake
  rw [Wire.incoming_flatMap_sendLine, List.map_map]
  · rfl
  · intro text member
    obtain ⟨command, written, rfl⟩ := List.mem_map.1 member
    exact
      ⟨(speakable.spoken written).isLine_line,
        (speakable.relayable_iff.2 carried command written).2.1⟩

end Commands

section Unreadable

/-- Bytes that start no character are read as replacements, and the line is no longer. -/
theorem readLine?_data_of_replicate
    {count : Nat}
    (fits : 5 + count ≤ Wire.lineLimit)
    (rest : List UInt8) :
    Wire.readLine?
        (Text.encode "data " ++ List.replicate count 0xFF ++
          Wire.lineFeed :: rest) =
      some
        (.line
            ("data " ++
              String.ofList (List.replicate count Text.replacement)),
          rest) := by
  have keyword :
      (Text.encode "data ").length = 5 ∧
        (Text.encode "data ").any Wire.endsLine = false := by
    decide
  have none :
      ∀ byte ∈ Text.encode "data " ++ List.replicate count 0xFF,
        Wire.endsLine byte = false := by
    intro byte member
    rcases List.mem_append.1 member with inKeyword | replicated
    · simpa using List.any_eq_false.1 keyword.2 byte inKeyword
    · rw [(List.mem_replicate.1 replicated).2]
      decide
  have decoded :
      Text.decode (Text.encode "data " ++ List.replicate count 0xFF) =
        "data " ++ String.ofList (List.replicate count Text.replacement) := by
    rw [← String.toList_inj, Text.decode, String.toList_ofList,
      Text.decodeCharacters_encode_append,
      Text.decodeCharacters_replicate (by decide) (by decide)]
    simp
  rw [Wire.readLine?_of_bytes, decoded]
  · exact fun member => absurd (none _ member) (by decide)
  · exact fun byte isLast => none byte (List.mem_of_getLast? isLast)
  · simpa [keyword.1] using fits

/-- What a client sends whose data are bytes that start no character. -/
def unreadable (count : Nat) : List UInt8 :=
  Wire.sendLine "begin" ++
    (Wire.sendLine "to ann@home.org" ++
      (Wire.sendLine "from ann@home.org" ++
        (Wire.sendLine "subject s" ++
          (Text.encode "data " ++ List.replicate count 0xFF ++
            Wire.lineFeed :: Wire.sendLine "send"))))

/-- The email that a server makes of it. -/
def replaced (count : Nat) : Email where
  recipients :=
    [⟨"ann", "home.org"⟩]
  sender :=
    "ann@home.org"
  subject :=
    "s"
  data :=
    String.ofList (List.replicate count Text.replacement)

theorem speakable_replaced (count : Nat) : Speakable (replaced count) where
  addressed :=
    List.cons_ne_nil _ _
  valid := by
    change ∀ recipient ∈ [(⟨"ann", "home.org"⟩ : Address)], recipient.IsValid
    decide
  sender :=
    (by decide : Wire.IsLine "ann@home.org")
  subject :=
    (by decide : Wire.IsLine "s")
  data :=
    (Wire.isOneLine_replicate (by decide) (by decide) count).isLine

/-- The server queues it as long as the bytes fit. -/
theorem queue_serve_unreadable
    {count : Nat}
    (fits : 5 + count ≤ Wire.lineLimit) :
    (Wire.serve Wire.submission ⟨.queue, .ofList [], .empty, []⟩
        (unreadable count)).2.queue =
      [replaced count] := by
  have arrived :
      Wire.incoming (unreadable count) =
        (commandsFor (replaced count)).map (.line ·.line) := by
    have begins :=
      @Wire.readLine?_sendLine "begin"
    have addresses :=
      @Wire.readLine?_sendLine "to ann@home.org"
    have signs :=
      @Wire.readLine?_sendLine "from ann@home.org"
    have titles :=
      @Wire.readLine?_sendLine "subject s"
    rw [unreadable,
      Wire.incoming_of_readLine? (begins _ (by decide) (by decide)),
      Wire.incoming_of_readLine? (addresses _ (by decide) (by decide)),
      Wire.incoming_of_readLine? (signs _ (by decide) (by decide)),
      Wire.incoming_of_readLine? (titles _ (by decide) (by decide)),
      Wire.incoming_of_readLine? (readLine?_data_of_replicate fits _),
      Wire.incoming_sendLine (by decide) (by decide)]
    have recipients :
        "to " ++ (replaced count).recipientList = "to ann@home.org" :=
      (by decide :
        "to " ++ Email.joinAddresses [⟨"ann", "home.org"⟩] = "to ann@home.org")
    have sender : "from " ++ (replaced count).sender = "from ann@home.org" :=
      (by decide : "from " ++ "ann@home.org" = "from ann@home.org")
    have subject : "subject " ++ (replaced count).subject = "subject s" :=
      (by decide : "subject " ++ "s" = "subject s")
    have data :
        (replaced count).data =
          String.ofList (List.replicate count Text.replacement) :=
      rfl
    simp only [commandsFor, Command.line, List.map_cons, List.map_nil,
      recipients, sender, subject, data]
  exact queue_serve_of_incoming (speakable_replaced count) rfl arrived

/-- It cannot be passed on once the replacements are longer than a line. -/
theorem not_relayable_replaced
    {count : Nat}
    (long : Wire.lineLimit < 5 + count * 3) :
    ¬ Relayable (replaced count) := by
  rw [(speakable_replaced count).relayable_iff]
  intro carried
  have fits := fits_data_iff.1 carried.data
  have character : (String.utf8EncodeChar Text.replacement).length = 3 := by
    decide
  rw [replaced, Text.length_encode_replicate, character] at fits
  exact Nat.not_le.2 long fits

/-- Data that are no text outgrow the line that brought them. -/
theorem queued_data_outgrow_line :
    (Wire.serve Wire.submission ⟨.queue, .ofList [], .empty, []⟩
          (unreadable 21844)).2.queue =
        [replaced 21844] ∧
      ¬ Relayable (replaced 21844) :=
  ⟨queue_serve_unreadable (by decide), not_relayable_replaced (by decide)⟩

end Unreadable

end Postroom.Submission
