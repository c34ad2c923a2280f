import Mathlib.Data.List.Induction
import Postroom.Proofs.Wire.Arrival
import Postroom.Submission.Client

namespace Postroom.Submission

/-!
# A client stops at the first bad reply

Replies are told apart by their place in the stream of a peer alone: the first
is the greeting, and each later one answers the command with its number. So
the stream decides how far a client goes, whatever the peer does, and however
its bytes are spread over the lines that it answers. The proof keeps two
connections side by side, that of the client and one that reads nothing and
only listens, and says which bytes of the second are left in the first.
-/

/-- What a client waits for at one place of the stream. -/
structure Expectation where
  /-- What the client says that it asked for, if the reply is bad. -/
  asked : String
  accepts : String → Prop

/-- The replies that a client waits for while it submits an email. -/
def expectations (email : Email) : List Expectation :=
  [
    ⟨"connect", (· = "ok DMTP")⟩,
    ⟨"begin", (· = "ok")⟩,
    ⟨"to " ++ email.recipientList,
      fun reply => reply = "ok" ∨ ∃ detail, reply = "ok " ++ detail⟩,
    ⟨"from " ++ email.sender, (· = "ok")⟩,
    ⟨"subject " ++ email.subject, (· = "ok")⟩,
    ⟨"data " ++ email.data, (· = "ok")⟩,
    ⟨"send", (· = "ok")⟩
  ]

/-- The lines that a client writes while it submits an email. -/
def commandLines (email : Email) : List String :=
  [
    "begin",
    "to " ++ email.recipientList,
    "from " ++ email.sender,
    "subject " ++ email.subject,
    "data " ++ email.data,
    "send"
  ]

/-- A read gives a reply that is expected. -/
def Expectation.Meets
    (expectation : Expectation)
    (read : Option Wire.Incoming) :
    Prop :=
  ∃ reply, read = some (.line reply) ∧ expectation.accepts reply

/-- The reply with a number is one that the client waits for. -/
def IsGood
    (email : Email)
    (stream : List UInt8)
    (number : Nat) :
    Prop :=
  ∃ expectation,
    (expectations email)[number]? = some expectation ∧
      expectation.Meets (Wire.readNth? number stream)

theorem IsGood.congr
    {email : Email}
    {stream other : List UInt8}
    {number : Nat}
    (good : IsGood email stream number)
    (same : Wire.readNth? number other = Wire.readNth? number stream) :
    IsGood email other number := by
  rw [IsGood, same]
  exact good

/-- What a client complains of when a read does not give what it waits for. -/
inductive Complaint (asked : String) : Option Wire.Incoming → Error → Prop where
  | ended :
      Complaint asked none .connectionClosed
  | overlong :
      Complaint asked (some .overlong) (.io "line too long")
  | unexpected (reply : String) :
      Complaint asked (some (.line reply)) (.unexpectedReply asked reply)

/-- Whether a call behind a number of others gives something without waiting for more. -/
def IsDecided
    (stream : List UInt8)
    (ended : Bool)
    (number : Nat) :
    Prop :=
  ended = true ∨ Wire.isComplete (Wire.leftBehind number stream) = true

/--
What a client writes and reports, by the stream of greeting and replies and by
whether the stream has ended.
-/
inductive Outcome
    (email : Email)
    (stream : List UInt8)
    (ended : Bool) :
    List String →
    Except Error Unit →
    Prop where
  | accepted
      (good : ∀ number < 7, IsGood email stream number) :
      Outcome email stream ended (commandLines email ++ ["quit"]) (.ok ())
  | refused
      {number : Nat}
      {expectation : Expectation}
      {error : Error}
      (earlier : ∀ before < number, IsGood email stream before)
      (isNext : (expectations email)[number]? = some expectation)
      (decided : IsDecided stream ended number)
      (bad : ¬ expectation.Meets (Wire.readNth? number stream))
      (complaint :
        Complaint expectation.asked (Wire.readNth? number stream) error) :
      Outcome email stream ended ((commandLines email).take number)
        (.error error)
  | stalled
      {number : Nat}
      (earlier : ∀ before < number, IsGood email stream before)
      (isNext : number < 7)
      (undecided : ¬ IsDecided stream ended number) :
      Outcome email stream ended ((commandLines email).take number)
        (.error (.io timedOut))

section Listening

variable {State : Type} (peer : Peer State)

/-- The connection to a peer that has greeted. -/
def greeted (state : State) : Connection State :=
  let (sent, next) := peer.greet state
  (⟨next, [], false⟩ : Connection State).arrive sent next

/-- The connection to a peer that was told some lines, when nothing was read from it. -/
def listening
    (state : State)
    (lines : List String) :
    Connection State :=
  lines.foldl (fun connection line => connection.writeLine peer line)
    (greeted peer state)

@[simp] theorem listening_concat
    (state : State)
    (lines : List String)
    (line : String) :
    listening peer state (lines ++ [line]) =
      (listening peer state lines).writeLine peer line := by
  simp [listening]

end Listening

/-- A client has read some lines of what a listener has of the same peer. -/
structure Caught
    (number : Nat)
    (listener client : Connection State) :
    Prop where
  peer : client.peer = listener.peer
  closed : client.closed = listener.closed
  inbox : client.inbox = Wire.leftBehind number listener.inbox
  /-- What was read is what a listener will have read, too. -/
  settled : listener.closed = false → Wire.Settled number listener.inbox

namespace Caught

variable
  {State : Type}
  {number : Nat}
  {listener client : Connection State}
  (caught : Caught number listener client)

include caught

/-- Both connections get the same bytes. -/
theorem arrive
    (sent : Sent)
    (next : State) :
    Caught number (listener.arrive sent next) (client.arrive sent next) ∧
      ∀ earlier < number,
        Wire.readNth? earlier (listener.arrive sent next).inbox =
          Wire.readNth? earlier listener.inbox := by
  cases closed : listener.closed with
  | true =>
      simp only [Connection.arrive, caught.closed, closed, ↓reduceIte]
      refine ⟨⟨rfl, rfl, caught.inbox, ?_⟩, fun _ _ => trivial⟩
      rintro ⟨⟩
  | false =>
      have settled := caught.settled closed
      obtain ⟨left, same⟩ := settled sent.bytes
      simp only [Connection.arrive, caught.closed, closed,
        Bool.false_eq_true, ↓reduceIte]
      refine ⟨⟨rfl, rfl, ?_, fun _ => settled.append sent.bytes⟩, same⟩
      simp only [left, caught.inbox]

/-- Both connections get the same bytes for a line. -/
theorem writeLine
    (peer : Peer State)
    (text : String) :
    Caught number (listener.writeLine peer text) (client.writeLine peer text) ∧
      ∀ earlier < number,
        Wire.readNth? earlier (listener.writeLine peer text).inbox =
          Wire.readNth? earlier listener.inbox := by
  have told := caught.arrive
    (peer.receive listener.peer (Wire.sendLine text)).1
    (peer.receive listener.peer (Wire.sendLine text)).2
  simpa only [Connection.writeLine, caught.peer] using told

/-- A read gives the next message of the stream, or the client waits in vain. -/
theorem readLine_cases :
    (IsDecided listener.inbox listener.closed number ∧
      ∃ next,
        client.readLine =
            (replyOf (Wire.readNth? number listener.inbox), next) ∧
          Caught (number + 1) listener next) ∨
      ¬ IsDecided listener.inbox listener.closed number ∧
        ∃ next,
          client.readLine = (.error (.io timedOut), next) ∧
            next.peer = listener.peer := by
  have test :
      (client.closed || Wire.isComplete client.inbox) = true ↔
        IsDecided listener.inbox listener.closed number := by
    rw [Bool.or_eq_true, caught.closed, caught.inbox, IsDecided]
  by_cases decided : IsDecided listener.inbox listener.closed number
  · refine Or.inl ⟨decided, ?_⟩
    have settled :
        listener.closed = false → Wire.Settled (number + 1) listener.inbox :=
      fun goesOn =>
        (caught.settled goesOn).succ
          (decided.resolve_left (by simp [goesOn]))
    simp only [Connection.readLine, test.2 decided, ↓reduceIte]
    simp only [caught.inbox, Wire.readLine?_leftBehind]
    cases given : Wire.readNth? number listener.inbox with
    | none =>
        obtain ⟨nothing, nothingToo⟩ := Wire.leftBehind_of_none given
        refine ⟨client, rfl, caught.peer, caught.closed, ?_, settled⟩
        rw [caught.inbox, nothing, nothingToo]
    | some message =>
        let left := Wire.leftBehind (number + 1) listener.inbox
        exact
          ⟨{ client with inbox := left }, rfl,
            caught.peer, caught.closed, rfl, settled⟩
  · refine Or.inr ⟨decided, { client with inbox := [] }, ?_, caught.peer⟩
    simp only [Connection.readLine, test, decided, ↓reduceIte]

end Caught

section Judging

/-- What a client waits for behind a command. -/
def Command.expectation : Command → Expectation
  | .to list =>
      ⟨"to " ++ list,
        fun reply => reply = "ok" ∨ ∃ detail, reply = "ok " ++ detail⟩
  | command =>
      ⟨command.line, (· = "ok")⟩

theorem expectations_eq (email : Email) :
    expectations email =
      ⟨"connect", (· = "ok DMTP")⟩ ::
        (commandsFor email).map Command.expectation :=
  rfl

theorem commandLines_eq (email : Email) :
    commandLines email = (commandsFor email).map Command.line :=
  rfl

/-- The client says which line it wrote. -/
theorem asked_expectation (command : Command) :
    command.expectation.asked = command.line := by
  cases command <;> rfl

/-- A reply is good when it is the one that the client waits for. -/
theorem isGoodReply_iff
    {command : Command}
    {reply : String} :
    isGoodReply command reply = true ↔
      command.expectation.accepts reply := by
  cases command <;>
    simp [isGoodReply, Command.expectation, Text.startsWith_eq_true_iff]

/-- A client takes the replies that are expected, and complains of the others. -/
structure Judges
    {α : Type}
    (judge : Except Error String → Except Error α)
    (expectation : Expectation) :
    Prop where
  failed : ∀ failure, judge (.error failure) = .error failure
  taken :
    ∀ reply, expectation.accepts reply → ∃ value, judge (.ok reply) = .ok value
  refused :
    ∀ reply,
      ¬ expectation.accepts reply →
      judge (.ok reply) = .error (.unexpectedReply expectation.asked reply)

/-- A client judges the greeting by what it waits for first. -/
theorem judges_judgeGreeting :
    Judges judgeGreeting ⟨"connect", (· = "ok DMTP")⟩ where
  failed _ :=
    rfl
  taken := by
    rintro _ rfl
    exact ⟨(), rfl⟩
  refused _ bad :=
    if_neg bad

/-- A client judges each reply by what it waits for behind the command. -/
theorem judges_judge (command : Command) :
    Judges (judge command) command.expectation where
  failed _ :=
    rfl
  taken reply good :=
    ⟨reply, by simp [judge, isGoodReply_iff.2 good]⟩
  refused reply bad := by
    simp [judge, isGoodReply_iff, bad, asked_expectation]

end Judging

/-- What comes of one read: a reply that is expected, another one, or none in time. -/
inductive Asked
    {State α : Type}
    (listener : Connection State)
    (number : Nat)
    (expectation : Expectation) :
    Except Error α × Connection State →
    Prop where
  | taken
      {value : α}
      {next : Connection State}
      (decided : IsDecided listener.inbox listener.closed number)
      (meets : expectation.Meets (Wire.readNth? number listener.inbox))
      (caught : Caught (number + 1) listener next) :
      Asked listener number expectation (.ok value, next)
  | refused
      {error : Error}
      {next : Connection State}
      (decided : IsDecided listener.inbox listener.closed number)
      (bad : ¬ expectation.Meets (Wire.readNth? number listener.inbox))
      (complaint :
        Complaint expectation.asked (Wire.readNth? number listener.inbox)
          error)
      (last : next.peer = listener.peer) :
      Asked listener number expectation (.error error, next)
  | stalled
      {next : Connection State}
      (undecided : ¬ IsDecided listener.inbox listener.closed number)
      (last : next.peer = listener.peer) :
      Asked listener number expectation (.error (.io timedOut), next)

section Asking

variable {State : Type}

/-- One read is asked for what the client takes. -/
theorem Judges.asked
    {α : Type}
    {judge : Except Error String → Except Error α}
    {expectation : Expectation}
    (judges : Judges judge expectation)
    {number : Nat}
    {listener client : Connection State}
    (caught : Caught number listener client) :
    Asked listener number expectation
      (judge client.readLine.1, client.readLine.2) := by
  rcases caught.readLine_cases with
    ⟨decided, next, read, caughtUp⟩ | ⟨undecided, next, read, last⟩
  · rw [read]
    have refused
        {error : Error}
        (bad : ¬ expectation.Meets (Wire.readNth? number listener.inbox))
        (complaint :
          Complaint expectation.asked (Wire.readNth? number listener.inbox)
            error) :
        @Asked _ α listener number expectation (.error error, next) :=
      .refused decided bad complaint caughtUp.peer
    cases message : Wire.readNth? number listener.inbox with
    | none =>
        rw [replyOf, judges.failed]
        rw [message] at refused
        exact refused (by simp [Expectation.Meets]) .ended
    | some incoming =>
        rw [message] at refused
        cases incoming with
        | overlong =>
            rw [replyOf, judges.failed]
            exact refused (by simp [Expectation.Meets]) .overlong
        | line reply =>
            rw [replyOf]
            by_cases good : expectation.accepts reply
            · obtain ⟨value, taken⟩ := judges.taken reply good
              rw [taken]
              exact .taken decided ⟨reply, message, good⟩ caughtUp
            · rw [judges.refused reply good]
              exact
                refused (by simpa [Expectation.Meets] using good)
                  (.unexpected reply)
  · rw [read, judges.failed]
    exact .stalled undecided last

/-- A client asks for the greeting first. -/
theorem asked_connect
    (peer : Peer State)
    (state : State) :
    Asked (greeted peer state) 0 ⟨"connect", (· = "ok DMTP")⟩
      (connect peer state) :=
  judges_judgeGreeting.asked
    ⟨rfl, rfl, rfl, fun _ => Wire.settled_zero (greeted peer state).inbox⟩

/-- A client asks for one reply behind each command. -/
theorem asked_ask
    (peer : Peer State)
    {number : Nat}
    {listener client : Connection State}
    (caught : Caught number listener client)
    (command : Command) :
    Asked (listener.writeLine peer command.line) number command.expectation
      (ask peer client command) :=
  (judges_judge command).asked (caught.writeLine peer command.line).1

end Asking

section Run

variable
  {State : Type}
  (peer : Peer State)
  (state : State)
  (email : Email)

/-- The reply with a number was there, and good, when the client went on to the next line. -/
def IsTimely
    (written : List String)
    (number : Nat) :
    Prop :=
  let heard := listening peer state (written.take number)
  IsDecided heard.inbox heard.closed number ∧
    IsGood email heard.inbox number

/-- A client ends as the stream says, and wrote to the peer what it says. -/
def EndsAsHeard
    (result : Except Error Unit)
    (last : State) :
    Prop :=
  ∃ written,
    let heard := listening peer state written
    Outcome email heard.inbox heard.closed written result ∧
      last = heard.peer ∧
      ∀ number < written.length, IsTimely peer state email written number

/-- The connection to a peer that was told a number of the lines of a submission. -/
def listeningTo (number : Nat) : Connection State :=
  listening peer state ((commandLines email).take number)

/-- The replies below a number are good, and each was there in time. -/
def AnsweredWell
    (stream : List UInt8)
    (number : Nat) :
    Prop :=
  ∀ before < number,
    IsGood email stream before ∧
      IsTimely peer state email (commandLines email) before

namespace AnsweredWell

variable {peer state email}

theorem congr
    {stream other : List UInt8}
    {number : Nat}
    (well : AnsweredWell peer state email stream number)
    (same :
      ∀ before < number,
        Wire.readNth? before other = Wire.readNth? before stream) :
    AnsweredWell peer state email other number :=
  fun before below =>
    ⟨(well before below).1.congr (same before below), (well before below).2⟩

/-- One more good reply is there when the client asks for it. -/
theorem succ
    {number : Nat}
    (well :
      AnsweredWell peer state email (listeningTo peer state email number).inbox
        number)
    (decided :
      IsDecided (listeningTo peer state email number).inbox
        (listeningTo peer state email number).closed number)
    (good : IsGood email (listeningTo peer state email number).inbox number) :
    AnsweredWell peer state email (listeningTo peer state email number).inbox
      (number + 1) := by
  intro before below
  rcases Nat.lt_succ_iff_lt_or_eq.1 below with before | rfl
  · exact well _ before
  · exact ⟨good, decided, good⟩

end AnsweredWell

/-- The first bad reply ends the submission. -/
theorem endsAsHeard_of_asked
    {number : Nat}
    {expectation : Expectation}
    {error : Error}
    {next : Connection State}
    (well :
      AnsweredWell peer state email (listeningTo peer state email number).inbox
        number)
    (isNext : (expectations email)[number]? = some expectation)
    (asked :
      @Asked _ α (listeningTo peer state email number) number expectation
        (.error error, next)) :
    EndsAsHeard peer state email (.error error) next.peer := by
  have earlier :=
    fun before below => (well before below).1
  have timely :
      ∀ before < ((commandLines email).take number).length,
        IsTimely peer state email ((commandLines email).take number)
          before := by
    intro before below
    have near : before < number :=
      Nat.lt_of_lt_of_le below (List.length_take_le _ _)
    rw [IsTimely, List.take_take, Nat.min_eq_left (Nat.le_of_lt near)]
    exact (well before near).2
  refine ⟨(commandLines email).take number, ?_⟩
  cases asked with
  | refused decided bad complaint last =>
      exact ⟨.refused earlier isNext decided bad complaint, last, timely⟩
  | stalled undecided last =>
      obtain ⟨below, _⟩ := List.getElem?_eq_some_iff.1 isNext
      exact ⟨.stalled earlier below undecided, last, timely⟩

/-- A client that was answered well to the end says goodbye. -/
theorem endsAsHeard_quit
    {number : Nat}
    {client : Connection State}
    (caught : Caught number (listening peer state (commandLines email)) client)
    (well :
      AnsweredWell peer state email
        (listening peer state (commandLines email)).inbox number)
    (all : 7 ≤ number) :
    EndsAsHeard peer state email (.ok ()) (quit peer client).peer := by
  obtain ⟨told, same⟩ := caught.writeLine peer "quit"
  refine ⟨commandLines email ++ ["quit"], ?_, ?_, ?_⟩
  · rw [listening_concat]
    exact .accepted fun before below =>
      (well.congr same before (Nat.lt_of_lt_of_le below all)).1
  · rw [listening_concat]
    exact told.peer
  · intro before below
    have near : before ≤ (commandLines email).length :=
      Nat.le_of_lt_succ below
    rw [IsTimely, List.take_append_of_le_length near]
    exact (well before (Nat.lt_of_lt_of_le below all)).2

/-- A client that was answered well so far goes on to the first bad reply. -/
theorem endsAsHeard_askAll
    {rest : List Command}
    {number : Nat}
    (isRest : (commandsFor email).drop number = rest)
    {client : Connection State}
    (caught :
      Caught (number + 1) (listeningTo peer state email number) client)
    (well :
      AnsweredWell peer state email (listeningTo peer state email number).inbox
        (number + 1)) :
    match askAll peer client rest with
    | (.error error, next) =>
        EndsAsHeard peer state email (.error error) next.peer
    | (.ok (), next) =>
        EndsAsHeard peer state email (.ok ()) (quit peer next).peer := by
  induction rest generalizing number client with
  | nil =>
      have all : 6 ≤ number := List.drop_eq_nil_iff.1 isRest
      have lines :
          (commandLines email).take number = commandLines email :=
        List.take_of_length_le all
      rw [listeningTo, lines] at caught well
      exact endsAsHeard_quit peer state email caught well (Nat.succ_le_succ all)
  | cons command rest inductionHypothesis =>
      have isNext : (commandsFor email)[number]? = some command := by
        rw [← List.head?_drop, isRest, List.head?_cons]
      have isRestToo : (commandsFor email).drop (number + 1) = rest := by
        rw [← List.tail_drop, isRest, List.tail_cons]
      have told :
          listeningTo peer state email (number + 1) =
            (listeningTo peer state email number).writeLine peer
              command.line := by
        simp [listeningTo, commandLines_eq, List.take_add_one, isNext]
      have expected :
          (expectations email)[number + 1]? = some command.expectation := by
        simp [expectations_eq, isNext]
      have asked := asked_ask peer caught command
      have same := (caught.writeLine peer command.line).2
      rw [← told] at asked same
      have wellToo := well.congr same
      rw [askAll]
      generalize ask peer client command = answer at asked
      obtain ⟨result, next⟩ := answer
      cases result with
      | error error =>
          exact endsAsHeard_of_asked peer state email wellToo expected asked
      | ok reply =>
          cases asked with
          | taken decided meets caughtUp =>
              exact inductionHypothesis isRestToo caughtUp
                (wellToo.succ decided ⟨_, expected, meets⟩)

/-- A client ends as it should, whatever its peer does. -/
theorem endsAsHeard_submit :
    EndsAsHeard peer state email (submit peer state email).1
      (submit peer state email).2 := by
  have well :
      AnsweredWell peer state email (listeningTo peer state email 0).inbox 0 :=
    fun _ below => absurd below (Nat.not_lt_zero _)
  have asked := asked_connect peer state
  rw [submit]
  generalize connect peer state = answer at asked
  obtain ⟨result, client⟩ := answer
  cases result with
  | error error =>
      exact endsAsHeard_of_asked peer state email well rfl asked
  | ok greeting =>
      cases asked with
      | taken decided meets caught =>
          have isAll : (commandsFor email).drop 0 = commandsFor email :=
            rfl
          have ended :=
            endsAsHeard_askAll peer state email isAll caught
              (well.succ decided ⟨_, rfl, meets⟩)
          dsimp only
          generalize askAll peer client (commandsFor email) = run at ended ⊢
          obtain ⟨_ | _, next⟩ := run <;> exact ended

end Run

/-- A peer that recites a stream, whatever is written to it, and notes what is written. -/
def recital (stream : List UInt8) : Peer (List (List UInt8)) where
  greet noted :=
    (⟨stream, true⟩, noted)
  receive noted bytes :=
    (⟨[], true⟩, noted ++ [bytes])

/-- Nothing that is written changes what is recited. -/
theorem listening_recital
    (stream : List UInt8)
    (lines : List String) :
    listening (recital stream) [] lines =
      ⟨lines.map Wire.sendLine, stream, true⟩ := by
  induction lines using List.reverseRecOn with
  | nil =>
      rfl
  | append_singleton lines line inductionHypothesis =>
      rw [listening_concat, inductionHypothesis, List.map_append]
      rfl

namespace Outcome

variable
  {email : Email}
  {stream : List UInt8}
  {ended : Bool}
  {written : List String}
  {result : Except Error Unit}

/-- Only a client that succeeds says goodbye. -/
theorem quit_mem_iff (outcome : Outcome email stream ended written result) :
    "quit" ∈ written ↔ result = .ok () := by
  have notSaid (number : Nat) : "quit" ∉ (commandLines email).take number := by
    intro member
    have said := List.mem_of_mem_take member
    simp [commandLines, ← String.toList_inj] at said
  cases outcome with
  | accepted good =>
      simp
  | refused earlier isNext decided bad complaint =>
      simpa using notSaid _
  | stalled earlier isNext undecided =>
      simpa using notSaid _

/-- When the stream has ended, a client succeeds exactly with good replies. -/
theorem eq_ok_iff (outcome : Outcome email stream true written result) :
    result = .ok () ↔ ∀ number < 7, IsGood email stream number := by
  cases outcome with
  | accepted good =>
      exact iff_of_true rfl good
  | refused earlier isNext decided bad complaint =>
      obtain ⟨below, _⟩ := List.getElem?_eq_some_iff.1 isNext
      refine iff_of_false (by simp) fun good => ?_
      obtain ⟨expectation, same, meets⟩ := good _ below
      cases isNext.symm.trans same
      exact bad meets
  | stalled earlier isNext undecided =>
      exact absurd (Or.inl rfl) undecided

end Outcome

/--
Whatever a peer does, a client writes the lines of a submission up to the one
that is not answered as it should be, each when the reply to the line before
has come in and is good, and complains of the first reply that is bad. It
succeeds exactly when the greeting and all six replies are good, and then it
also says goodbye. Of a peer that does not wait for the client, the stream
alone decides; a peer that neither ends its line nor its stream is waited for
in vain.
-/
theorem stops_at_first_bad_reply (email : Email) :
    (∀ (State : Type) (peer : Peer State) (state : State),
      ∃ written,
        let heard := listening peer state written
        let (result, last) := submit peer state email
        Outcome email heard.inbox heard.closed written result ∧
          last = heard.peer ∧
          (∀ number < written.length,
            IsTimely peer state email written number) ∧
          ("quit" ∈ written ↔ result = .ok ())) ∧
      ∀ stream : List UInt8,
        ∃ written,
          let (result, noted) := submit (recital stream) [] email
          Outcome email stream true written result ∧
            noted = written.map Wire.sendLine ∧
            ("quit" ∈ written ↔ result = .ok ()) ∧
            (result = .ok () ↔ ∀ number < 7, IsGood email stream number) := by
  constructor
  · intro State peer state
    obtain ⟨written, outcome, last, timely⟩ :=
      endsAsHeard_submit peer state email
    exact ⟨written, outcome, last, timely, outcome.quit_mem_iff⟩
  · intro stream
    obtain ⟨written, outcome, last, _⟩ :=
      endsAsHeard_submit (recital stream) [] email
    simp only [listening_recital] at outcome last
    exact
      ⟨written, outcome, last, outcome.quit_mem_iff, outcome.eq_ok_iff⟩

end Postroom.Submission
