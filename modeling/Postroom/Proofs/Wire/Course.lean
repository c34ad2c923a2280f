import Postroom.Proofs.Access.Farewell
import Postroom.Proofs.Submission.Farewell
import Postroom.Proofs.Wire.Arrival
import Postroom.Proofs.Wire.Turns

namespace Postroom.Wire

/-!
# The course of a connection

A server answers line after line until the session is over, a line is too long
or the client falls silent. Whether the session is over is read off its state
alone, and the main statement says that the loop of the server comes to the
same conclusion from its replies: it answers exactly these lines, and nothing
behind the last of them makes any difference.
-/

/-- Why a server stops answering. -/
inductive Stop where
  /-- Nothing more comes in. -/
  | silence
  /-- A line is too long. -/
  | overlong
  /-- The session is over. -/
  | closed
  deriving Repr, DecidableEq

/-- What is sent behind the last answer. -/
def Stop.lastWords : Stop → List Reply
  | .overlong =>
      [Reply.line "error line too long"]
  | .silence | .closed =>
      []

/--
The turns that a session takes on a stream, why it takes no more, and the bytes
that are left then.
-/
inductive Course
    (service : Service Session)
    (isOver : Session → Prop) :
    Session →
    MailRoom →
    List UInt8 →
    List (Turn Session) →
    Stop →
    List UInt8 →
    Prop where
  | silence
      {session : Session}
      {room : MailRoom} :
      Course service isOver session room [] [] .silence []
  | overlong
      {session : Session}
      {room : MailRoom}
      {stream left : List UInt8}
      (read : readLine? stream = some (.overlong, left)) :
      Course service isOver session room stream [] .overlong left
  | closed
      {session : Session}
      {room : MailRoom}
      {stream left : List UInt8}
      {text : String}
      {turn : Turn Session}
      (read : readLine? stream = some (.line text, left))
      (taken : service.answer session room text = turn)
      (isLast : isOver turn.session) :
      Course service isOver session room stream [turn] .closed left
  | onward
      {session : Session}
      {room : MailRoom}
      {stream behind left : List UInt8}
      {text : String}
      {turn : Turn Session}
      {turns : List (Turn Session)}
      {stop : Stop}
      (read : readLine? stream = some (.line text, behind))
      (taken : service.answer session room text = turn)
      (goesOn : ¬ isOver turn.session)
      (rest :
        Course service isOver turn.session turn.room behind turns stop left) :
      Course service isOver session room stream (turn :: turns) stop left

/-- The room behind some turns. -/
def roomBehind
    (room : MailRoom)
    (turns : List (Turn Session)) :
    MailRoom :=
  turns.foldl (fun _ turn => turn.room) room

/-- The server hangs up behind an answer exactly when the session is over behind it. -/
def EndsWithSession
    (service : Service Session)
    (isOver : Session → Prop) :
    Prop :=
  ∀ session room line,
    ¬ isOver session →
    (isOver (service.answer session room line).session ↔
      (service.answer session room line).ends = true)

/-- What a connection with a stream comes to. -/
structure Conducted
    (service : Service Session)
    (isOver : Session → Prop)
    (room : MailRoom)
    (stream : List UInt8)
    (turns : List (Turn Session))
    (stop : Stop)
    (left : List UInt8) :
    Prop where
  course :
    Course service isOver service.start room stream turns stop left
  output :
    wireText (serve service room stream).1 =
      service.greeting.wire ++ wireText (turns.map Turn.reply) ++
        wireText stop.lastWords
  lastRoom :
    (serve service room stream).2 = roomBehind room turns
  isRest :
    left <:+ stream
  /-- Other bytes behind the last line that was read make no difference. -/
  unaffected :
    ∀ taken,
      stream = taken ++ left →
      stop ≠ .silence →
      left ≠ [] ∨ taken.getLast? = some lineFeed →
      ∀ other,
        serve service room (taken ++ other) = serve service room stream

section Courses

variable
  {service : Service Session}
  {isOver : Session → Prop}
  {session : Session}
  {room : MailRoom}
  {stream left : List UInt8}
  {turns : List (Turn Session)}
  {stop : Stop}

/-- Every stream is finite, so a server stops answering some time. -/
theorem exists_course
    (service : Service Session)
    (isOver : Session → Prop)
    (session : Session)
    (room : MailRoom)
    (stream : List UInt8) :
    ∃ turns stop left,
      Course service isOver session room stream turns stop left := by
  induction stream using reading_induction generalizing session room with
  | empty =>
      exact ⟨[], .silence, [], .silence⟩
  | segment stream message behind read inductionHypothesis =>
      cases message with
      | overlong =>
          exact ⟨[], .overlong, behind, .overlong read⟩
      | line text =>
          by_cases ended : isOver (service.answer session room text).session
          · exact ⟨_, .closed, behind, .closed read rfl ended⟩
          · obtain ⟨turns, stop, left, rest⟩ :=
              inductionHypothesis
                (service.answer session room text).session
                (service.answer session room text).room
            exact ⟨_, stop, left, .onward read rfl ended rest⟩

namespace Course

/-- What is left is the end of the stream. -/
theorem isRest
    (course : Course service isOver session room stream turns stop left) :
    left <:+ stream := by
  induction course with
  | silence =>
      exact List.suffix_refl []
  | overlong read | closed read =>
      exact suffix_of_readLine? read
  | onward read taken goesOn rest inductionHypothesis =>
      exact inductionHypothesis.trans (suffix_of_readLine? read)

/-- Every turn answers a line. -/
theorem answers_lines
    (course : Course service isOver session room stream turns stop left)
    {turn : Turn Session}
    (member : turn ∈ turns) :
    ∃ before earlier text,
      IsLine text ∧ service.answer before earlier text = turn := by
  induction course with
  | silence | overlong =>
      cases member
  | closed read taken isLast =>
      rw [List.mem_singleton] at member
      exact ⟨_, _, _, isLine_of_readLine? read, member ▸ taken⟩
  | onward read taken goesOn rest inductionHypothesis =>
      rcases List.mem_cons.1 member with rfl | later
      · exact ⟨_, _, _, isLine_of_readLine? read, taken⟩
      · exact inductionHypothesis later

/-- The loop of a server answers the turns and leaves the room behind them. -/
theorem answerAll_eq
    (ends : EndsWithSession service isOver)
    (isOpen : ¬ isOver session)
    (course : Course service isOver session room stream turns stop left) :
    let (replies, last) :=
      answerAll service ⟨session, room, true⟩ (incoming stream)
    replies = turns.map Turn.reply ++ stop.lastWords ∧
      last.room = roomBehind room turns := by
  induction course with
  | silence =>
      rw [incoming_nil]
      exact ⟨rfl, rfl⟩
  | overlong read =>
      have told : overlongReply = Reply.line "error line too long" := by
        decide
      rw [incoming_of_readLine? read]
      simp only [answerAll, answer, ↓reduceIte, answerAll_of_closed, told]
      exact ⟨rfl, rfl⟩
  | closed read taken isLast =>
      have hangsUp := (ends _ _ _ isOpen).1 (taken.symm ▸ isLast)
      rw [incoming_of_readLine? read,
        answerAll_of_ends taken (taken ▸ hangsUp)]
      exact ⟨rfl, rfl⟩
  | @onward _ _ _ _ _ _ turn _ _ read taken goesOn rest inductionHypothesis =>
      have listens : turn.ends = false := by
        rw [← taken, Bool.eq_false_iff, ne_eq, ← ends _ _ _ isOpen, taken]
        exact goesOn
      obtain ⟨replies, last⟩ := inductionHypothesis goesOn
      rw [incoming_of_readLine? read, answerAll_of_goesOn taken listens]
      exact ⟨congrArg (turn.reply :: ·) replies, last⟩

/-- What a server says and leaves is what the course of the connection says. -/
theorem serve_eq
    (ends : EndsWithSession service isOver)
    (fresh : ¬ isOver service.start)
    (course :
      Course service isOver service.start room stream turns stop left) :
    serve service room stream =
      (service.greeting :: (turns.map Turn.reply ++ stop.lastWords),
        roomBehind room turns) := by
  obtain ⟨replies, last⟩ := course.answerAll_eq ends fresh
  rw [← replies, ← last]
  rfl

/-- Before a line is read there is one. -/
theorem ne_nil
    (course : Course service isOver session room stream turns stop left)
    (stopped : stop ≠ .silence) :
    stream ≠ [] := by
  cases course with
  | silence =>
      exact absurd rfl stopped
  | overlong read | closed read | onward read =>
      rintro rfl
      cases read

/-- The bytes behind the last line can be replaced by others. -/
theorem of_other
    (course : Course service isOver session room stream turns stop left)
    {taken : List UInt8}
    (split : stream = taken ++ left)
    (stopped : stop ≠ .silence)
    (ended : left ≠ [] ∨ taken.getLast? = some lineFeed)
    (other : List UInt8) :
    Course service isOver session room (taken ++ other) turns stop other := by
  induction course generalizing taken with
  | silence =>
      exact absurd rfl stopped
  | overlong read =>
      subst split
      exact .overlong (readLine?_of_other read ended other)
  | closed read answered isLast =>
      subst split
      exact .closed (readLine?_of_other read ended other) answered isLast
  | @onward _ _ stream behind left _ _ _ _
      read answered goesOn rest inductionHypothesis =>
      obtain ⟨segment, rfl⟩ := suffix_of_readLine? read
      have inhabited := rest.ne_nil stopped
      obtain ⟨later, rfl⟩ := rest.isRest
      rw [← List.append_assoc] at split
      obtain rfl := List.append_cancel_right split
      have endedToo : left ≠ [] ∨ later.getLast? = some lineFeed := by
        by_cases nothing : left = []
        · rw [nothing, List.append_nil] at inhabited
          simpa [nothing, List.getLast?_append,
            List.getLast?_eq_some_getLast inhabited] using ended
        · exact Or.inl nothing
      rw [List.append_assoc]
      exact
        .onward (readLine?_of_other read (Or.inl inhabited) (later ++ other))
          answered goesOn (inductionHypothesis rfl stopped endedToo)

end Course

/-- The loop of a server stops where the session is over. -/
theorem Course.conducted
    (ends : EndsWithSession service isOver)
    (fresh : ¬ isOver service.start)
    (course :
      Course service isOver service.start room stream turns stop left) :
    Conducted service isOver room stream turns stop left where
  course :=
    course
  output := by
    rw [course.serve_eq ends fresh]
    simp [wireText, String.append_assoc]
  lastRoom := by
    rw [course.serve_eq ends fresh]
  isRest :=
    course.isRest
  unaffected taken split stopped ended other := by
    have replaced := course.of_other split stopped ended other
    rw [replaced.serve_eq ends fresh, course.serve_eq ends fresh]

end Courses

/-- A submission session is over when it is closed. -/
theorem submission_endsWithSession :
    EndsWithSession submission fun session => session.phase = .closed :=
  fun session room line isOpen =>
    session.phase_process_eq_closed_iff room isOpen line

/-- An access session is over when it is closed. -/
theorem access_endsWithSession :
    EndsWithSession access fun session => session = .closed :=
  fun session room line isOpen =>
    session.process_eq_closed_iff isOpen room.users room.store line

/--
For both protocols, the server hangs up behind an answer exactly when the
session is closed behind it, and no stored mail is told in the words of the
farewell. So every connection takes its course: the greeting, one reply for
each line up to the one that closes the session, or the error for an overlong
line, which the session never sees, and nothing for what comes behind. Each
reply to a submitting client is one line that begins with the outcome.
-/
theorem connection_ends_with_its_session :
    (∀ (session : Submission.Session) (room : MailRoom) (line : String),
        session.phase ≠ .closed →
        ((session.process room line).session.phase = .closed ↔
          (session.process room line).ends = true)) ∧
      (∀ (session : Access.Session) (users : UserTable)
          (store : Mailbox.Store) (line : String),
        session ≠ .closed →
        ((session.process users store line).session = .closed ↔
          (session.process users store line).ends = true)) ∧
      (∀ messages : Mailbox.Messages,
        (Reply.listing (messages.map Access.listingLine)).isBye = false) ∧
      (∀ email : Email,
        (Reply.listing (Access.emailLines email)).isBye = false) ∧
      (∀ (room : MailRoom) (stream : List UInt8),
        ∃ turns stop left,
          Conducted submission (fun session => session.phase = .closed)
              room stream turns stop left ∧
            ∀ turn ∈ turns, Submission.IsOutcome turn.reply) ∧
      ∀ (room : MailRoom) (stream : List UInt8),
        ∃ turns stop left,
          Conducted access (fun session => session = .closed)
            room stream turns stop left := by
  refine
    ⟨fun session room line isOpen =>
        session.phase_process_eq_closed_iff room isOpen line,
      fun session users store line isOpen =>
        session.process_eq_closed_iff isOpen users store line,
      Access.isBye_listing, Access.isBye_emailLines, ?_, ?_⟩
  · intro room stream
    obtain ⟨turns, stop, left, course⟩ :=
      exists_course submission (fun session => session.phase = .closed)
        submission.start room stream
    refine
      ⟨turns, stop, left,
        course.conducted submission_endsWithSession (by decide), ?_⟩
    intro turn member
    obtain ⟨session, earlier, text, isLine, rfl⟩ := course.answers_lines member
    exact session.isOutcome_process earlier isLine.1
  · intro room stream
    obtain ⟨turns, stop, left, course⟩ :=
      exists_course access (fun session => session = .closed)
        access.start room stream
    exact
      ⟨turns, stop, left, course.conducted access_endsWithSession (by decide)⟩

/-- Whoever quits is hung up on, and a message that bids farewell is listed like any other. -/
theorem farewell_ends_its_session :
    let submitting : Submission.Session := ⟨.collecting, .fresh⟩
    let left := submitting.process ⟨.queue, .empty, .empty, []⟩ "quit"
    let visiting : Access.Session := .authenticated "ok"
    let store :=
      (Mailbox.Store.empty.deposit "ok" ⟨[], "ok", "bye", "ok bye"⟩).2
    let listed := visiting.process .empty store "list"
    submitting.phase ≠ .closed ∧
      left.session.phase = .closed ∧ left.ends = true ∧
      visiting ≠ .closed ∧
      listed.session ≠ .closed ∧ listed.ends = false := by
  intro submitting left visiting store listed
  obtain ⟨submissions, visits, -⟩ := connection_ends_with_its_session
  have closed : left.session.phase = .closed := by
    decide
  have goesOn : listed.session ≠ .closed := by
    decide
  refine
    ⟨by decide, closed, (submissions _ _ _ (by decide)).1 closed, by decide,
      goesOn, ?_⟩
  rw [Bool.eq_false_iff, ne_eq, ← visits _ _ _ _ (by decide)]
  exact goesOn

end Postroom.Wire
