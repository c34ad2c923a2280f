import Postroom.Proofs.Access.Rules
import Postroom.Proofs.Access.Wording
import Postroom.Proofs.Mailbox.Retrieval
import Postroom.Proofs.Submission.Intake

namespace Postroom

/-!
# What is sent is what is read

A client submits an email, and a user who is addressed asks for it under the
number that it was given. The user is shown the parts of the email as the
client wrote them, but for blanks around the recipients, and the shown lines
say all that is stored of it. Only a user whose login is too long for a line is
kept out.
-/

namespace Submission

/-- The lines that carry the parts of an email. -/
def partLines (list sender subject data : String) : List String := [
  "to " ++ list,
  "from " ++ sender,
  "subject " ++ subject,
  "data " ++ data]

/-- The lines with which a client submits one email and quits. -/
def submissionLines (list sender subject data : String) : List String :=
  "begin" :: partLines list sender subject data ++ ["send", "quit"]

/-- Carriage returns that are lost behind a recipient list are no part of it. -/
theorem readRecipients_received
    {list : String}
    {recipients : List Address}
    (read : readRecipients list = .ok recipients) :
    readRecipients (Wire.received list) = .ok recipients := by
  obtain ⟨returns, whole, areReturns⟩ := Wire.exists_eq_received_append list
  have blank :
      ∀ character ∈ returns.toList, Text.isBlank character = true := by
    intro character member
    rw [areReturns character member]
    decide
  generalize Wire.received list = kept at whole ⊢
  subst whole
  rw [readRecipients_eq_ok_iff,
    Text.map_trim_pieces_append (by decide) kept blank] at read
  exact readRecipients_eq_ok_iff.2 read

section Serving

variable
  {list sender subject data : String}
  (unbroken : '\n' ∉ list.toList)
  (plainSender : Wire.IsLine sender)
  (plainSubject : Wire.IsLine subject)
  (plainData : Wire.IsLine data)
  (fits : ∀ line ∈ partLines list sender subject data, Wire.Fits line)

include unbroken plainSender plainSubject plainData fits

/-- The lines of a submission come in as they are, but for the end of the list. -/
theorem incoming_submissionLines :
    Wire.incoming
        ((submissionLines list sender subject data).flatMap Wire.sendLine) =
      ([.begin, .to (Wire.received list), .sender sender, .subject subject,
          .data data, .send] : List Command).map (.line ·.line) ++
        [.line "quit"] := by
  have ready :
      ∀ line ∈ submissionLines list sender subject data,
        '\n' ∉ line.toList ∧ Wire.Fits line := by
    simp only [partLines, List.forall_mem_cons] at fits
    obtain ⟨fitsList, fitsSender, fitsSubject, fitsData, _⟩ := fits
    have behind
        {keyword text : String}
        (plain : '\n' ∉ keyword.toList)
        (isLine : '\n' ∉ text.toList) :
        '\n' ∉ (keyword ++ text).toList := by
      rw [String.toList_append, List.mem_append, not_or]
      exact ⟨plain, isLine⟩
    simp only [submissionLines, partLines, List.cons_append,
      List.nil_append, List.forall_mem_cons]
    exact
      ⟨⟨by decide, by decide⟩,
        ⟨behind (by decide) unbroken, fitsList⟩,
        ⟨behind (by decide) plainSender.1, fitsSender⟩,
        ⟨behind (by decide) plainSubject.1, fitsSubject⟩,
        ⟨behind (by decide) plainData.1, fitsData⟩,
        ⟨by decide, by decide⟩, ⟨by decide, by decide⟩, by simp⟩
  have whole (text : String) (isLine : Wire.IsLine text) :
      Wire.received text = text :=
    isLine.received_eq
  rw [Wire.incoming_flatMap_sendLine_received ready]
  simp only [submissionLines, partLines, List.cons_append, List.nil_append,
    List.map_cons, List.map_nil, Command.line,
    whole "begin" (by decide), whole "send" (by decide),
    whole "quit" (by decide),
    Wire.received_append (by decide : Wire.IsLine "to "),
    Wire.received_append (by decide : Wire.IsLine "from "),
    Wire.received_append (by decide : Wire.IsLine "subject "),
    Wire.received_append (by decide : Wire.IsLine "data "),
    plainSender.received_eq, plainSubject.received_eq,
    plainData.received_eq]

/-- A server whose room takes the parts of an email is left with that room. -/
theorem room_serve_submissionLines
    {room later : MailRoom}
    {recipients : List Address}
    {count : Nat}
    (read : readRecipients list = .ok recipients)
    (accepted : room.accept recipients = .ok count)
    (delivered :
      room.deliver ⟨recipients, sender, subject, data⟩ = .ok later) :
    (Wire.serve Wire.submission room
        ((submissionLines list sender subject data).flatMap
          Wire.sendLine)).2 =
      later := by
  have arrived :=
    incoming_submissionLines unbroken plainSender plainSubject plainData fits
  have answered :=
    answerAll_parts (readRecipients_received read) accepted delivered
      [.line "quit"]
  have left :
      Wire.submission.answer ⟨.collecting, .fresh⟩ later "quit" =
        ⟨Reply.bye, true, ⟨.closed, .fresh⟩, later⟩ :=
    rfl
  have start : Wire.submission.start = .start :=
    rfl
  rw [Wire.answerAll_of_ends left rfl] at answered
  rw [Wire.snd_serve, arrived, start, answered]

/-- A mailbox server that accepts the recipients gives each addressee a copy. -/
theorem serve_submissionLines_mailbox
    {room : MailRoom}
    {domain : String}
    (intake : room.intake = .mailbox domain)
    {recipients : List Address}
    {count : Nat}
    (read : readRecipients list = .ok recipients)
    (accepted : room.accept recipients = .ok count) :
    (Wire.serve Wire.submission room
        ((submissionLines list sender subject data).flatMap
          Wire.sendLine)).2 =
      { room with
        store :=
          MailRoom.depositAll room.store
            (MailRoom.addressees domain recipients)
            ⟨recipients, sender, subject, data⟩ } := by
  obtain ⟨_, known, _⟩ := (MailRoom.accept_mailbox_eq_ok_iff intake).1 accepted
  refine
    room_serve_submissionLines unbroken plainSender plainSubject plainData
      fits read accepted ?_
  rw [MailRoom.deliver_mailbox intake, MailRoom.localUsers_eq_addressees known]

end Serving

end Submission

namespace Access

/-- The lines with which a user looks at one message and quits. -/
def visitLines
    (user password : String)
    (identifier : Mailbox.MessageId) :
    List String := [
  "login " ++ user ++ " " ++ password,
  "show " ++ Text.writeDecimal identifier.toNat,
  "quit"]

/-- The email that four shown lines tell of. -/
def readEmail? : List String → Option Email
  | [senderLine, listLine, subjectLine, dataLine] =>
      match Submission.Command.ofLine senderLine,
        Submission.Command.ofLine listLine,
        Submission.Command.ofLine subjectLine,
        Submission.Command.ofLine dataLine with
      | .sender sender, .to list, .subject subject, .data data =>
          ((Text.pieces ',' list).mapM Address.ofText?).map
            (⟨·, sender, subject, data⟩)
      | _, _, _, _ =>
          none
  | _ =>
      none

/-- The shown lines of an email tell of that email. -/
theorem readEmail?_emailLines
    {email : Email}
    (valid : ∀ recipient ∈ email.recipients, recipient.IsValid)
    (addressed : email.recipients ≠ []) :
    readEmail? (emailLines email) = some email := by
  have pieces :
      Text.pieces ',' email.recipientList =
        email.recipients.map Address.text :=
    Submission.pieces_joinAddresses valid addressed
  have sender :=
    @Submission.Command.ofLine_line (.sender email.sender) (by simp)
  have list :=
    @Submission.Command.ofLine_line (.to email.recipientList) (by simp)
  have subject :=
    @Submission.Command.ofLine_line (.subject email.subject) (by simp)
  have data :=
    @Submission.Command.ofLine_line (.data email.data) (by simp)
  simp only [Submission.Command.line] at sender list subject data
  simp only [readEmail?, emailLines, sender, list, subject, data, pieces,
    Address.mapM_ofText?_text valid, Option.map_some]

/-- The lines of a visit come in as the commands that they are. -/
theorem incoming_visitLines
    {user password : String}
    (oneLine : Wire.IsOneLine ("login " ++ user ++ " " ++ password))
    (fits : Wire.Fits ("login " ++ user ++ " " ++ password))
    (identifier : Mailbox.MessageId) :
    Wire.incoming
        ((visitLines user password identifier).flatMap Wire.sendLine) =
      ([.login user password,
          .showMail (Text.writeDecimal identifier.toNat),
          .quit] : List Command).map (.line ·.line) := by
  obtain ⟨showOneLine, showFits⟩ :=
    Wire.fits_append_writeDecimal (by decide : Wire.IsOneLine "show ")
      (by decide) identifier.toNat_lt
  have ready :
      ∀ line ∈ visitLines user password identifier,
        Wire.IsLine line ∧ Wire.Fits line := by
    simp only [visitLines, List.forall_mem_cons]
    exact
      ⟨⟨oneLine.isLine, fits⟩, ⟨showOneLine.isLine, showFits⟩,
        ⟨by decide, by decide⟩, by simp⟩
  rw [Wire.incoming_flatMap_sendLine ready]
  rfl

/-- A plain command that succeeds is answered, and the server listens on. -/
theorem answerAll_of_succeeds
    {session next : Session}
    {room : MailRoom}
    {later : Mailbox.Store}
    {command : Command}
    {reply : Reply}
    (plain : command.IsPlain)
    (succeeds :
      Succeeds session room.users room.store command reply next later)
    (goesOn : reply.isBye = false)
    (rest : List Wire.Incoming) :
    (Wire.answerAll Wire.access ⟨session, room, true⟩
        (.line command.line :: rest)).1 =
      reply ::
        (Wire.answerAll Wire.access
          ⟨next, { room with store := later }, true⟩ rest).1 := by
  have processed :
      session.process room.users room.store command.line =
        ⟨.ok reply, next, later⟩ := by
    rw [Session.process, Command.ofLine_line plain,
      Session.perform_eq_ok_iff.2 succeeds]
  have taken :
      Wire.access.answer session room command.line =
        ⟨reply, false, next, { room with store := later }⟩ := by
    simp [Wire.access, processed, Answer.reply, Answer.ends, goesOn]
  rw [Wire.answerAll_of_goesOn taken rfl]

section Visits

variable
  {room : MailRoom}
  {user password : String}
  {identifier : Mailbox.MessageId}

/-- A user with the right password is shown a message and let go. -/
theorem answerAll_visit
    {email : Email}
    (plain : Command.IsPlain (.login user password))
    (configured : room.users.find? user = some password)
    (found : room.store.get user identifier = .ok email) :
    (Wire.answerAll Wire.access ⟨.start, room, true⟩
        (([.login user password,
            .showMail (Text.writeDecimal identifier.toNat),
            .quit] : List Command).map (.line ·.line))).1 =
      [Reply.ok, Reply.listing (emailLines email), Reply.bye] := by
  have numeral :
      Command.IsPlain (.showMail (Text.writeDecimal identifier.toNat)) :=
    (Text.isNumeral_writeDecimal _).not_mem (by decide) (by decide)
  have taken :
      messageId room.store user (Text.writeDecimal identifier.toNat) =
        .ok identifier :=
    messageId_eq_ok_iff.2
      ⟨Mailbox.Store.hasMailbox_of_get found,
        readMessageId?_writeDecimal identifier⟩
  have left :
      Wire.access.answer (.authenticated user) room Command.quit.line =
        ⟨Reply.bye, true, .closed, room⟩ :=
    rfl
  have start : Session.start = .unauthenticated :=
    rfl
  simp only [List.map_cons, List.map_nil]
  rw [answerAll_of_succeeds plain (.login start configured) rfl, Session.login,
    answerAll_of_succeeds numeral (.showMail rfl taken found) rfl,
    Wire.answerAll_of_ends left rfl]

/-- An addressee whose login fits a line is sent the email that is there. -/
theorem serve_visitLines
    {email : Email}
    {recipient : Address}
    (valid : recipient.IsValid)
    (oneWord : ' ' ∉ password.toList)
    (plainPassword : Wire.IsOneLine password)
    (fits :
      Wire.Fits ("login " ++ recipient.localPart ++ " " ++ password))
    (configured : room.users.find? recipient.localPart = some password)
    (found : room.store.get recipient.localPart identifier = .ok email) :
    (Wire.serve Wire.access room
        ((visitLines recipient.localPart password identifier).flatMap
          Wire.sendLine)).1 =
      [Reply.greeting Wire.accessProtocol, Reply.ok,
        Reply.listing (emailLines email), Reply.bye] := by
  have plain : Command.IsPlain (.login recipient.localPart password) :=
    ⟨valid.localPart_ne_empty, valid.space_not_mem_localPart, oneWord⟩
  have oneLine :
      Wire.IsOneLine
        ("login " ++ recipient.localPart ++ " " ++ password) := by
    simp only [Wire.isOneLine_append]
    exact
      ⟨⟨⟨by decide, valid.isOneLine_localPart⟩, by decide⟩, plainPassword⟩
  rw [Wire.fst_serve, incoming_visitLines oneLine fits identifier]
  exact congrArg (_ :: ·) (answerAll_visit plain configured found)

/-- Whoever logs in by a line that is too long is told so, and nothing more. -/
theorem serve_of_long_login
    {login : String}
    (oneLine : Wire.IsOneLine login)
    (long : ¬ Wire.Fits login)
    (others : List String) :
    (Wire.serve Wire.access room
        ((login :: others).flatMap Wire.sendLine)).1 =
      [Reply.greeting Wire.accessProtocol, Wire.overlongReply] := by
  obtain ⟨behind, read⟩ :=
    Wire.readLine?_sendLine_of_long (others.flatMap Wire.sendLine) oneLine long
  rw [Wire.fst_serve, List.flatMap_cons, Wire.incoming_of_readLine? read]
  simp [Wire.answerAll, Wire.answer, Wire.answerAll_of_closed, Wire.access]

end Visits

end Access

namespace House

open Access (emailLines readEmail? visitLines)
open MailRoom (addressees)
open Submission (partLines readRecipients submissionLines)

/--
An email is submitted to a mailbox server and looked at by one of those whom
it addresses. The server sends exactly the lines that were submitted, with the
recipients in the order given and the blanks around them removed. These lines
tell of the whole email that is stored. The user's login has to fit a line.
-/
theorem shown_as_submitted
    {domain : String}
    {users : UserTable}
    {store : Mailbox.Store}
    {queue : List Email}
    {list sender subject data : String}
    {recipients : List Address}
    {count : Nat}
    (unbroken : '\n' ∉ list.toList)
    (read : readRecipients list = .ok recipients)
    (accepted :
      MailRoom.accept ⟨.mailbox domain, users, store, queue⟩ recipients =
        .ok count)
    (plainSender : Wire.IsOneLine sender)
    (plainSubject : Wire.IsOneLine subject)
    (plainData : Wire.IsOneLine data)
    (fits : ∀ line ∈ partLines list sender subject data, Wire.Fits line)
    {place : Nat}
    {user password : String}
    (addressed : (addressees domain recipients)[place]? = some user)
    (configured : users.find? user = some password)
    (oneWord : ' ' ∉ password.toList)
    (plainPassword : Wire.IsOneLine password)
    (fitsLogin : Wire.Fits ("login " ++ user ++ " " ++ password)) :
    let later :=
      (Wire.serve Wire.submission ⟨.mailbox domain, users, store, queue⟩
        ((submissionLines list sender subject data).flatMap Wire.sendLine)).2
    let number := store.nextId + UInt64.ofNat place
    let sent :=
      (Wire.serve Wire.access later
        ((visitLines user password number).flatMap Wire.sendLine)).1
    let shown := [
      "from " ++ sender,
      "to " ++
        String.intercalate "," ((Text.pieces ',' list).map Text.trim),
      "subject " ++ subject,
      "data " ++ data]
    Text.encode (Wire.wireText sent) =
        (["ok DMAP", "ok"] ++ shown ++ ["ok bye"]).flatMap Wire.sendLine ∧
      later.store.get user number =
        .ok ⟨recipients, sender, subject, data⟩ ∧
      readEmail? shown = some ⟨recipients, sender, subject, data⟩ := by
  intro later number sent shown
  obtain ⟨pieces, valid⟩ := Submission.readRecipients_eq_ok_iff.1 read
  have left :=
    Submission.serve_submissionLines_mailbox unbroken plainSender.isLine
      plainSubject.isLine plainData.isLine fits rfl read accepted
  have found :
      later.store.get user number =
        .ok ⟨recipients, sender, subject, data⟩ := by
    simp only [later, left]
    exact
      MailRoom.get_depositAll (MailRoom.nodup_addressees domain recipients)
        addressed store _
  have configuredLater : later.users.find? user = some password := by
    simp only [later, left]
    exact configured
  have lines : shown = emailLines ⟨recipients, sender, subject, data⟩ := by
    simp only [shown, emailLines, pieces]
    rfl
  obtain ⟨recipient, member, _, rfl⟩ :=
    MailRoom.mem_addressees.1 (List.mem_of_getElem? addressed)
  have replies : sent = _ :=
    Access.serve_visitLines (valid recipient member) oneWord plainPassword
      fitsLogin configuredLater found
  refine ⟨?_, found, ?_⟩
  · rw [Wire.encode_wireText, replies, lines]
    rfl
  · rw [lines]
    exact
      Access.readEmail?_emailLines valid
        (Submission.ne_nil_of_readRecipients read)

/-- Two users with padded and repeated addresses, and a subject like a command. -/
theorem shown_as_submitted_padded :
    let users : UserTable := .ofList [("ann", "x"), ("bob", "")]
    let later :=
      (Wire.serve Wire.submission ⟨.mailbox "home.org", users, .empty, []⟩
        ((submissionLines " bob@home.org ,ann@HOME.org,ann@home.org\r"
          "" " quit" "send").flatMap Wire.sendLine)).2
    Text.encode
        (Wire.wireText
          (Wire.serve Wire.access later
            ((visitLines "bob" "" 1).flatMap Wire.sendLine)).1) =
      ["ok DMAP", "ok", "from ", "to bob@home.org,ann@HOME.org,ann@home.org",
        "subject  quit", "data send", "ok bye"].flatMap Wire.sendLine := by
  intro users later
  have read :
      readRecipients " bob@home.org ,ann@HOME.org,ann@home.org\r" =
        .ok
          [⟨"bob", "home.org"⟩, ⟨"ann", "HOME.org"⟩,
            ⟨"ann", "home.org"⟩] := by
    rfl
  have accepted :
      MailRoom.accept ⟨.mailbox "home.org", users, .empty, []⟩
          [⟨"bob", "home.org"⟩, ⟨"ann", "HOME.org"⟩, ⟨"ann", "home.org"⟩] =
        .ok 3 := by
    rfl
  have addressed :
      (addressees "home.org"
          [⟨"bob", "home.org"⟩, ⟨"ann", "HOME.org"⟩,
            ⟨"ann", "home.org"⟩])[1]? =
        some "bob" := by
    decide +kernel
  have configured : users.find? "bob" = some "" := by
    decide +kernel
  have shown :=
    shown_as_submitted (by decide) read accepted
      (by decide : Wire.IsOneLine "") (by decide : Wire.IsOneLine " quit")
      (by decide : Wire.IsOneLine "send") (by decide) addressed configured
      (by decide) (by decide) (by decide)
  exact shown.1

/-- A mailbox server with a single user. -/
def singleUser (password : String) : MailRoom :=
  ⟨.mailbox "home.org", .ofList [("ann", password)], .empty, []⟩

/-- The room in which the single user has got an email. -/
def singleUserServed (password : String) : MailRoom :=
  (Wire.serve Wire.submission (singleUser password)
    ((submissionLines "ann@home.org" "s" "t" "d").flatMap Wire.sendLine)).2

/-- The single user gets the email, whatever the password is. -/
theorem get_singleUserServed (password : String) :
    (singleUserServed password).store.get "ann" 0 =
      .ok ⟨[⟨"ann", "home.org"⟩], "s", "t", "d"⟩ := by
  have read :
      readRecipients "ann@home.org" = .ok [⟨"ann", "home.org"⟩] := by
    rfl
  have accepted :
      (singleUser password).accept [⟨"ann", "home.org"⟩] = .ok 1 := by
    rfl
  have served :=
    Submission.serve_submissionLines_mailbox (by decide)
      (by decide : Wire.IsLine "s") (by decide : Wire.IsLine "t")
      (by decide : Wire.IsLine "d") (by decide) rfl read accepted
  rw [singleUserServed, served]
  rfl

/-- A password of as many letters as wanted. -/
def letters (count : Nat) : String :=
  String.ofList (List.replicate count 'x')

/-- A password can be made so long that its login does not fit a line. -/
theorem not_fits_login_letters
    {count : Nat}
    (many : Wire.lineLimit < 10 + count) :
    ¬ Wire.Fits ("login " ++ "ann" ++ " " ++ letters count) := by
  have character : (String.utf8EncodeChar 'x').length = 1 := by
    decide
  have front : (Text.encode ("login " ++ "ann" ++ " ")).length = 10 := by
    decide
  rw [Wire.Fits, Text.encode_append, List.length_append, front, letters,
    Text.length_encode_replicate, character]
  omega

/-- Then the single user is not shown the email. -/
theorem serve_singleUser_letters
    {count : Nat}
    (many : Wire.lineLimit < 10 + count) :
    Text.encode
        (Wire.wireText
          (Wire.serve Wire.access (singleUserServed (letters count))
            ((visitLines "ann" (letters count) 0).flatMap Wire.sendLine)).1) =
      ["ok DMAP", "error line too long"].flatMap Wire.sendLine := by
  have oneLine : Wire.IsOneLine (letters count) :=
    Wire.isOneLine_replicate (by decide) (by decide) count
  have login :
      Wire.IsOneLine ("login " ++ "ann" ++ " " ++ letters count) :=
    Wire.isOneLine_append.2 ⟨by decide, oneLine⟩
  rw [visitLines,
    Access.serve_of_long_login login (not_fits_login_letters many),
    Wire.encode_wireText]
  rfl

/-- A user whose password is too long never sees the email that is there. -/
theorem kept_out_by_long_password :
    let password := letters 65527
    let room := singleUser password
    let later := singleUserServed password
    let recipients : List Address := [⟨"ann", "home.org"⟩]
    readRecipients "ann@home.org" = .ok recipients ∧
      room.accept recipients = .ok 1 ∧
      (∀ line ∈ partLines "ann@home.org" "s" "t" "d", Wire.Fits line) ∧
      addressees "home.org" recipients = ["ann"] ∧
      room.users.find? "ann" = some password ∧
      ' ' ∉ password.toList ∧
      Wire.IsOneLine password ∧
      later.store.get "ann" 0 = .ok ⟨recipients, "s", "t", "d"⟩ ∧
      Text.encode
          (Wire.wireText
            (Wire.serve Wire.access later
              ((visitLines "ann" password 0).flatMap Wire.sendLine)).1) ≠
        ["ok DMAP", "ok", "from s", "to ann@home.org", "subject t", "data d",
          "ok bye"].flatMap Wire.sendLine := by
  generalize size : 65527 = count
  have many : Wire.lineLimit < 10 + count := by
    rw [← size]
    decide
  intro password room later recipients
  refine
    ⟨rfl, rfl, by decide, by decide +kernel, rfl, ?_,
      Wire.isOneLine_replicate (by decide) (by decide) count,
      get_singleUserServed password, ?_⟩
  · simp [password, letters, List.mem_replicate]
  · rw [serve_singleUser_letters many]
    decide

end House

end Postroom
