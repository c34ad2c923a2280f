import Postroom.Network
import Postroom.Proofs.Submission.Wording

namespace Postroom.Submission

/-!
# Clients and servers in dialogue

A client that sends commands to a mail server goes through them as if it
performed them itself, up to the first one that fails or that no line can
carry. The step is one command and its reply; the run follows by induction
over the commands.
-/

/-- A mail server at the other end of a client's connection. -/
abbrev mailServer : Peer (Wire.Progress Session) :=
  serverPeer Wire.submission

/-- A connection on which everything was read and both ends go on. -/
def waiting
    (session : Session)
    (room : MailRoom) :
    Connection (Wire.Progress Session) :=
  ⟨⟨session, room, true⟩, [], false⟩

/-- The client failed, and left a mail room behind. -/
def GivenUp
    (room : MailRoom)
    (result :
      Except Error α × Connection (Wire.Progress Session)) : Prop :=
  (∃ error, result.1 = .error error) ∧ result.2.peer.room = room

/-- What a client reads of a reply that is one line. -/
def heard (text : String) : Except Error String :=
  if Wire.Fits text then
    .ok text
  else
    .error (.io Error.lineTooLong.message)

/-- A client reads a line that waits for it, and nothing else if it fits. -/
theorem readLine_of_sendLine
    (peer : State)
    {text : String}
    (oneLine : Wire.IsOneLine text)
    (closed : Bool) :
    ∃ behind,
      (⟨peer, Wire.sendLine text, closed⟩ : Connection State).readLine =
          (heard text, ⟨peer, behind, closed⟩) ∧
        (Wire.Fits text → behind = []) := by
  have complete : Wire.isComplete (Wire.sendLine text) = true := by
    simpa using Wire.isComplete_sendLine text []
  by_cases fits : Wire.Fits text
  · have read := Wire.readLine?_sendLine [] oneLine.isLine fits
    rw [List.append_nil] at read
    refine ⟨[], ?_, fun _ => rfl⟩
    simp [Connection.readLine, complete, read, replyOf, heard, fits]
  · obtain ⟨behind, read⟩ :=
      Wire.readLine?_sendLine_of_long [] oneLine fits
    rw [List.append_nil] at read
    refine ⟨behind, ?_, fun short => absurd short fits⟩
    simp [Connection.readLine, complete, read, replyOf, heard, fits]

/-- An exchange is what the client makes of the line that it is sent. -/
theorem ask_of_writeLine
    {peer : Peer State}
    {connection : Connection State}
    {command : Command}
    {after : State}
    {text : String}
    {closed : Bool}
    (oneLine : Wire.IsOneLine text)
    (written :
      connection.writeLine peer command.line =
        ⟨after, Wire.sendLine text, closed⟩) :
    ∃ behind,
      ask peer connection command =
          (judge command (heard text), ⟨after, behind, closed⟩) ∧
        (Wire.Fits text → behind = []) := by
  obtain ⟨behind, read, empty⟩ :=
    readLine_of_sendLine after oneLine closed
  exact ⟨behind, by simp only [ask, written, read], empty⟩

/-- The greeting of a mail server is the one that clients expect. -/
theorem connect_mailServer
    (session : Session)
    (room : MailRoom) :
    connect mailServer ⟨session, room, true⟩ =
      (.ok (), waiting session room) := by
  have sent :
      Text.encode Wire.submission.greeting.wire =
        Wire.sendLine "ok DMTP" := by
    decide
  have oneLine : Wire.IsOneLine "ok DMTP" := by
    decide
  have fits : Wire.Fits "ok DMTP" := by
    decide
  obtain ⟨behind, read, empty⟩ :=
    readLine_of_sendLine (⟨session, room, true⟩ : Wire.Progress Session)
      oneLine false
  simp [connect, mailServer, serverPeer, Connection.arrive, sent, read,
    heard, fits, empty, judgeGreeting, expectedGreeting, waiting]

section Exchanges

variable
  (session : Session)
  (room : MailRoom)
  {text : String}

/-- A line that fits is answered by the session. -/
theorem writeLine_waiting
    (isLine : Wire.IsLine text)
    (fits : Wire.Fits text) :
    let answer := session.process room text
    (waiting session room).writeLine mailServer text =
      ⟨⟨answer.session, answer.room, !answer.ends⟩,
        Text.encode (Wire.wireText [answer.reply]),
        answer.ends⟩ := by
  have heard := Wire.incoming_sendLine isLine fits
  simp [Connection.writeLine, waiting, mailServer, serverPeer, heard,
    Wire.answerAll, Wire.answer, Wire.submission, Connection.arrive]

/-- An overlong line never reaches the session. -/
theorem writeLine_waiting_of_long
    (oneLine : Wire.IsOneLine text)
    (long : ¬ Wire.Fits text) :
    (waiting session room).writeLine mailServer text =
      ⟨⟨session, room, false⟩,
        Wire.sendLine "error line too long",
        true⟩ := by
  obtain ⟨others, heard⟩ := Wire.incoming_sendLine_of_long oneLine long
  have reply :
      Text.encode (Wire.wireText [Wire.overlongReply]) =
        Wire.sendLine "error line too long" := by
    decide
  simp [Connection.writeLine, waiting, mailServer, serverPeer, heard,
    Wire.answerAll, Wire.answer, Wire.answerAll_of_closed, reply,
    Connection.arrive]

end Exchanges

section Replies

variable
  {session next : Session}
  {room later : MailRoom}
  {command : Command}

/-- A count of recipients is read as a number, so it is no farewell. -/
theorem isBye_okWith (count : Nat) :
    (Reply.okWith (toString count)).isBye = false := by
  simp only [Reply.isBye, beq_eq_false_iff_ne, ne_eq]
  intro same
  have lines : "ok " ++ toString count = "ok " ++ "bye" :=
    congrArg Reply.first same
  have counted : Text.writeDecimal count = "bye" := by
    rw [← String.toList_inj] at lines ⊢
    simpa [Text.writeDecimal] using lines
  have read := Text.readDecimal?_writeDecimal count
  rw [counted] at read
  exact absurd read (by
    rw [show Text.readDecimal? "bye" = none by decide]
    simp)

/-- A server does not take more recipients than there are. -/
theorem count_le_of_accept
    {recipients : List Address}
    {count : Nat}
    (accepted : room.accept recipients = .ok count) :
    count ≤ recipients.length := by
  unfold MailRoom.accept at accepted
  split at accepted
  · dsimp only at accepted
    split at accepted
    · cases accepted
    · split at accepted
      · cases accepted
      · cases accepted
        exact List.length_filter_le _ _
  · cases accepted
    exact Nat.le_refl _
  · cases accepted
    exact Nat.le_refl _

/-- The count of recipients that one line carries is short and on one line. -/
theorem fits_okWith
    {count : Nat}
    (few : count ≤ Wire.lineLimit) :
    Wire.IsOneLine ("ok " ++ toString count) ∧
      Wire.Fits ("ok " ++ toString count) := by
  have below : count < UInt64.size :=
    Nat.lt_of_le_of_lt few (by decide)
  exact Wire.fits_append_writeDecimal (by decide) (by decide) below

/-- The reply to a command that succeeded is one short line that suits it. -/
theorem Spoken.reply
    {reply : Reply}
    (spoken : Spoken command)
    (fits : Wire.Fits command.line)
    (succeeds : Succeeds session room command reply next later) :
    ∃ text,
      reply = Reply.line text ∧ reply.isBye = false ∧
        Wire.IsOneLine text ∧ Wire.Fits text ∧
        isGoodReply command text = true := by
  cases succeeds with
  | begun | signed | titled | filled | sent =>
      exact ⟨"ok", rfl, rfl, by decide, by decide, rfl⟩
  | addressed phase read accepted =>
      rename_i list recipients count
      cases spoken with
      | addressed valid addressed =>
          rename_i listed
          obtain rfl : listed = recipients := by
            rw [readRecipients_joinAddresses valid addressed] at read
            exact Except.ok.inj read
          have few : count ≤ Wire.lineLimit := by
            have taken := count_le_of_accept accepted
            have written := length_le_length_joinAddresses listed
            simp only [Wire.Fits, Command.line, Text.encode_append,
              List.length_append] at fits
            omega
          obtain ⟨oneLine, short⟩ := fits_okWith few
          refine
            ⟨"ok " ++ toString count, rfl, isBye_okWith count,
              oneLine, short, ?_⟩
          have starts :
              Text.startsWith "ok " ("ok " ++ toString count) = true :=
            Text.startsWith_eq_true_iff.2 ⟨_, rfl⟩
          simp only [isGoodReply, starts, Bool.or_true]
  | left phase =>
      cases spoken

/-- A stranger is named by a local part, which breaks no line. -/
theorem isOneLine_message_of_accept
    {recipients : List Address}
    (valid : ∀ recipient ∈ recipients, recipient.IsValid)
    {failure : Error}
    (refused : room.accept recipients = .error failure) :
    Wire.IsOneLine failure.message := by
  unfold MailRoom.accept at refused
  split at refused
  · dsimp only at refused
    split at refused
    · rename_i stranger found
      cases refused
      have listed : stranger ∈ recipients :=
        (List.mem_filter.1 (List.mem_of_find?_eq_some found)).1
      exact Wire.isOneLine_append.2
        ⟨by decide, (valid stranger listed).isOneLine_localPart⟩
    · split at refused
      · cases refused
        decide
      · cases refused
  · cases refused
  · cases refused

/-- A recipient list of valid recipients fails only as the room refuses them. -/
theorem addressTo_joinAddresses_eq_error_iff
    {recipients : List Address}
    (valid : ∀ recipient ∈ recipients, recipient.IsValid)
    (addressed : recipients ≠ [])
    {failure : Error} :
    session.addressTo room (Email.joinAddresses recipients) =
        .error failure ↔
      room.accept recipients = .error failure := by
  rw [Session.addressTo_eq_error_iff,
    readRecipients_joinAddresses valid addressed]
  simp only [reduceCtorEq, Except.ok.injEq, exists_eq_left', false_or]

/-- A draft is sent in vain when it lacks a part or nobody takes mail any more. -/
theorem isOneLine_message_of_send
    {failure : Error}
    (failed : session.send room = .error failure) :
    Wire.IsOneLine failure.message := by
  rcases bind_eq_error_iff.1 failed with incomplete | ⟨email, _, rest⟩
  · unfold Session.buildEmail at incomplete
    split at incomplete
    · cases incomplete
    · rename_i field _
      cases incomplete
      cases field <;> decide
  · rcases bind_eq_error_iff.1 rest with undelivered | ⟨_, _, impossible⟩
    · unfold MailRoom.deliver at undelivered
      split at undelivered
      · cases undelivered
      · cases undelivered
      · cases undelivered
        decide
    · cases impossible

/-- The reason why a command fails breaks no line. -/
theorem Spoken.isOneLine_message
    {failure : Error}
    (spoken : Spoken command)
    (failed : session.perform room command = .error failure) :
    Wire.IsOneLine failure.message := by
  unfold Session.perform at failed
  split at failed
  · cases failed
  · cases failed
    decide
  · rename_i list _
    cases spoken with
    | addressed valid addressed =>
        exact isOneLine_message_of_accept valid
          ((addressTo_joinAddresses_eq_error_iff valid addressed).1
            (map_eq_error_iff.1 failed))
  · cases failed
  · cases failed
  · cases failed
  · exact isOneLine_message_of_send (map_eq_error_iff.1 failed)
  · cases failed
  · cases failed
    decide
  · cases failed
    decide
  · cases failed
    decide

end Replies

/-- No client takes an error for success, readable or not. -/
theorem judge_error
    (command : Command)
    (message : String) :
    ∃ error, judge command (heard ("error " ++ message)) = .error error := by
  have failed := Reply.isOk_error message
  simp only [Reply.isOk, Reply.error, Reply.line, Bool.or_eq_false_iff]
    at failed
  have bad : isGoodReply command ("error " ++ message) = false := by
    cases command <;> simp [isGoodReply, failed]
  unfold heard
  split
  · exact ⟨_, by simp [judge, bad]; rfl⟩
  · exact ⟨_, rfl⟩

/-- A command that no line can carry fails. -/
theorem ask_of_long
    {session : Session}
    {room : MailRoom}
    {command : Command}
    (oneLine : Wire.IsOneLine command.line)
    (long : ¬ Wire.Fits command.line) :
    GivenUp room (ask mailServer (waiting session room) command) := by
  have reply : Wire.IsOneLine ("error " ++ "line too long") := by
    decide
  obtain ⟨behind, asked, _⟩ :=
    ask_of_writeLine reply
      (writeLine_waiting_of_long session room oneLine long)
  obtain ⟨error, judged⟩ := judge_error command "line too long"
  rw [asked]
  exact ⟨⟨error, judged⟩, rfl⟩

namespace Spoken

variable
  {session next : Session}
  {room later : MailRoom}
  {command : Command}
  (spoken : Spoken command)

include spoken

/-- A command that the session refuses fails, and the room is as before. -/
theorem ask_of_refused
    (fits : Wire.Fits command.line)
    {failure : Error}
    (refused : session.perform room command = .error failure) :
    GivenUp room (ask mailServer (waiting session room) command) := by
  have answer :
      session.process room command.line =
        ⟨.error failure,
          if failure.endsSession then session.close else session,
          room⟩ := by
    simp [Session.process, spoken.ofLine_line, refused]
  have oneLine : Wire.IsOneLine ("error " ++ failure.message) :=
    Wire.isOneLine_append.2
      ⟨by decide, spoken.isOneLine_message refused⟩
  have written :=
    writeLine_waiting session room spoken.isLine_line fits
  rw [answer] at written
  obtain ⟨behind, asked, _⟩ :=
    ask_of_writeLine oneLine
      (written.trans
        (congrArg (Connection.mk _ · _)
          (Wire.encode_wireText_line ("error " ++ failure.message))))
  obtain ⟨error, judged⟩ := judge_error command failure.message
  rw [asked]
  exact ⟨⟨error, judged⟩, rfl⟩

/-- A command that succeeds leaves both ends ready for the next one. -/
theorem ask_of_succeeds
    (fits : Wire.Fits command.line)
    {reply : Reply}
    (succeeds : Succeeds session room command reply next later) :
    ∃ text,
      ask mailServer (waiting session room) command =
        (.ok text, waiting next later) := by
  obtain ⟨text, rfl, stays, oneLine, short, good⟩ :=
    spoken.reply fits succeeds
  have answer :
      session.process room command.line =
        ⟨.ok (Reply.line text), next, later⟩ :=
    succeeds.process_line
  have goesOn :
      (⟨.ok (Reply.line text), next, later⟩ : Answer).ends = false :=
    stays
  have reply :
      (⟨.ok (Reply.line text), next, later⟩ : Answer).reply =
        Reply.line text :=
    rfl
  have written :=
    writeLine_waiting session room spoken.isLine_line fits
  simp only [answer, goesOn, reply, Wire.encode_wireText_line,
    Bool.not_false] at written
  obtain ⟨behind, asked, empty⟩ := ask_of_writeLine oneLine written
  have judged : judge command (heard text) = .ok text := by
    simp [judge, heard, short, good]
  rw [judged, empty short] at asked
  exact ⟨text, asked⟩

end Spoken

/--
What becomes of commands that are performed up to the first that fails or
that no line can carry: the session behind the last one, if all succeeded, and
the mail room.
-/
def performAll :
    Session →
    MailRoom →
    List Command →
    Option Session × MailRoom
  | session, room, [] =>
      (some session, room)
  | session, room, command :: rest =>
      if Wire.Fits command.line then
        match session.perform room command with
        | .ok (_, next, later) =>
            performAll next later rest
        | .error _ =>
            (none, room)
      else
        (none, room)

section Runs

variable
  {session next last : Session}
  {room later : MailRoom}
  {command : Command}
  {rest : List Command}

theorem performAll_of_long (long : ¬ Wire.Fits command.line) :
    performAll session room (command :: rest) = (none, room) := by
  simp [performAll, long]

theorem performAll_of_refused
    {failure : Error}
    (refused : session.perform room command = .error failure) :
    performAll session room (command :: rest) = (none, room) := by
  simp [performAll, refused]

/-- A command that is carried and succeeds hands over to the next ones. -/
theorem performAll_of_succeeds
    (fits : Wire.Fits command.line)
    {reply : Reply}
    (succeeds : Succeeds session room command reply next later) :
    performAll session room (command :: rest) =
      performAll next later rest := by
  simp [performAll, fits, Session.perform_eq_ok_iff.2 succeeds]

/-- A run ends well when its first command does and the others do behind it. -/
theorem performAll_cons_eq_some_iff :
    performAll session room (command :: rest) = (some last, later) ↔
      Wire.Fits command.line ∧
        ∃ reply next middle,
          Succeeds session room command reply next middle ∧
            performAll next middle rest = (some last, later) := by
  constructor
  · intro performed
    by_cases fits : Wire.Fits command.line
    · cases outcome : session.perform room command with
      | ok done =>
          rcases done with ⟨reply, next, middle⟩
          have succeeds := Session.perform_eq_ok_iff.1 outcome
          rw [performAll_of_succeeds fits succeeds] at performed
          exact ⟨fits, reply, next, middle, succeeds, performed⟩
      | error failure =>
          rw [performAll_of_refused outcome] at performed
          cases performed
    · rw [performAll_of_long fits] at performed
      cases performed
  · rintro ⟨fits, reply, next, middle, succeeds, performed⟩
    rw [performAll_of_succeeds fits succeeds]
    exact performed

/-- A command other than `send` leaves the mail room alone. -/
theorem Succeeds.room_eq
    {reply : Reply}
    (succeeds : Succeeds session room command reply next later)
    (notSend : command ≠ .send) :
    later = room := by
  cases succeeds with
  | sent phase built delivered =>
      exact absurd rfl notSend
  | _ =>
      rfl

/-- A run that fails leaves the mail room alone when only its last command sends. -/
theorem room_eq_of_performAll_eq_none
    {commands : List Command}
    (sendsLast : .send ∉ commands.dropLast)
    (failed : performAll session room commands = (none, later)) :
    later = room := by
  induction commands generalizing session room with
  | nil =>
      cases failed
  | cons command rest inductionHypothesis =>
      by_cases fits : Wire.Fits command.line
      · cases outcome : session.perform room command with
        | ok done =>
            rcases done with ⟨reply, next, middle⟩
            have succeeds := Session.perform_eq_ok_iff.1 outcome
            rw [performAll_of_succeeds fits succeeds] at failed
            cases rest with
            | nil =>
                cases failed
            | cons second others =>
                rw [List.dropLast_cons_cons, List.mem_cons, not_or]
                  at sendsLast
                have same : middle = room :=
                  succeeds.room_eq (Ne.symm sendsLast.1)
                exact (inductionHypothesis sendsLast.2 failed).trans same
        | error failure =>
            rw [performAll_of_refused outcome] at failed
            cases failed
            rfl
      · rw [performAll_of_long fits] at failed
        cases failed
        rfl

end Runs

/-- A dialogue goes as far as its commands do, and leaves the same mail room. -/
theorem askAll_waiting
    (session : Session)
    (room : MailRoom)
    {commands : List Command}
    (spoken : ∀ command ∈ commands, Spoken command)
    (short :
      ∀ command ∈ commands,
        Wire.Fits command.line ∨ Wire.IsOneLine command.line) :
    let result := askAll mailServer (waiting session room) commands
    match performAll session room commands with
    | (some last, later) =>
        result = (.ok (), waiting last later)
    | (none, later) =>
        GivenUp later result := by
  induction commands generalizing session room with
  | nil =>
      rfl
  | cons command rest inductionHypothesis =>
      have front : Spoken command :=
        spoken command List.mem_cons_self
      have givenUp
          (failed :
            GivenUp room (ask mailServer (waiting session room) command)) :
          GivenUp room
            (askAll mailServer (waiting session room)
              (command :: rest)) := by
        rcases asked : ask mailServer (waiting session room) command with
          ⟨answer, next⟩
        obtain ⟨⟨error, rfl⟩, same⟩ := asked ▸ failed
        exact
          ⟨⟨error, by simp [askAll, asked]⟩,
            by simpa [askAll, asked] using same⟩
      by_cases fits : Wire.Fits command.line
      · cases performed : session.perform room command with
        | ok done =>
            rcases done with ⟨reply, next, later⟩
            have succeeds := Session.perform_eq_ok_iff.1 performed
            obtain ⟨text, asked⟩ := front.ask_of_succeeds fits succeeds
            have goesOn :=
              inductionHypothesis next later
                (fun other member =>
                  spoken other (List.mem_cons_of_mem command member))
                (fun other member =>
                  short other (List.mem_cons_of_mem command member))
            rw [performAll_of_succeeds fits succeeds]
            simpa [askAll, asked] using goesOn
        | error failure =>
            rw [performAll_of_refused performed]
            exact givenUp (front.ask_of_refused fits performed)
      · have oneLine : Wire.IsOneLine command.line :=
          (short command List.mem_cons_self).resolve_left fits
        rw [performAll_of_long fits]
        exact givenUp (ask_of_long oneLine fits)

end Postroom.Submission
