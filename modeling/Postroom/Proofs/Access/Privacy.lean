import Postroom.Proofs.Access.Refusals
import Postroom.Proofs.Mailbox.Retrieval

namespace Postroom

/-!
# Visitors keep to their own mail

A line of a visiting user reads and changes no mailbox but the one of the user
who is logged in. This is said first of the rules, by taking each of them from
one store over to another that is alike in this mailbox. It follows of a whole
conversation that two stores which are alike in the mailboxes of all users that
were logged in cannot be told apart, and stay alike in them.
-/

namespace Access

/-- Numbers are taken alike from a user whose mailboxes are alike. -/
theorem messageId_congr
    {store other : Mailbox.Store}
    {user : String}
    (alike : other.mailbox? user = store.mailbox? user)
    (number : String) :
    messageId other user number = messageId store user number := by
  simp only [messageId, Mailbox.Store.hasMailbox_congr alike]

/-- Two stores are alike in the mailbox of the user who is logged in, if any. -/
def Session.Alike
    (session : Session)
    (store other : Mailbox.Store) : Prop :=
  ∀ user, session = .authenticated user →
    other.mailbox? user = store.mailbox? user

/-- What is not found in a mailbox is not found in another one like it. -/
theorem Unfound.carry
    {store other : Mailbox.Store}
    {user number : String}
    {error : Error}
    (unfound : Unfound store user number error)
    (alike : other.mailbox? user = store.mailbox? user) :
    Unfound other user number error := by
  cases unfound with
  | homeless absent =>
      exact .homeless (alike.trans absent)
  | unreadable owns unread =>
      exact .unreadable
        ((Mailbox.Store.hasMailbox_congr alike).trans owns) unread
  | missing read absent =>
      exact .missing
        ((messageId_congr alike number).trans read)
        ((Mailbox.Store.get_congr alike _).trans absent)

section Rules

variable
  {session next : Session}
  {users : UserTable}
  {store other later : Mailbox.Store}
  {command : Command}
  {reply : Reply}

/-- A command that fails also fails where the user's mailbox is alike. -/
theorem Fails.carry
    {error : Error}
    (fails : Fails session users store command error)
    (alike : session.Alike store other) :
    Fails session users other command error := by
  cases fails with
  | login visitor refused =>
      exact .login visitor refused
  | list visitor absent =>
      exact .list visitor ((alike _ visitor).trans absent)
  | showMail visitor unfound =>
      exact .showMail visitor (unfound.carry (alike _ visitor))
  | delete visitor unfound =>
      exact .delete visitor (unfound.carry (alike _ visitor))
  | unsupported unsupported =>
      exact .unsupported unsupported

namespace Succeeds

variable (succeeds : Succeeds session users store command reply next later)

include succeeds

/-- A command that succeeds does the same where the user's mailbox is alike. -/
theorem carry (alike : session.Alike store other) :
    ∃ left,
      Succeeds session users other command reply next left ∧
        session.Alike later left := by
  cases succeeds with
  | quit =>
      exact ⟨other, .quit, alike⟩
  | login visitor verified =>
      exact ⟨other, .login visitor verified, alike⟩
  | list visitor found =>
      have listed := Mailbox.Store.list_congr (alike _ visitor)
      exact ⟨other, .list visitor (listed.trans found), alike⟩
  | showMail visitor read found =>
      have taken := messageId_congr (alike _ visitor)
      have got := Mailbox.Store.get_congr (alike _ visitor)
      exact
        ⟨other, .showMail visitor ((taken _).trans read) ((got _).trans found),
          alike⟩
  | @delete user number identifier email later visitor read removed =>
      have taken := messageId_congr (alike _ visitor)
      obtain ⟨messages, mailbox, found, rfl⟩ :=
        Mailbox.Store.delete_eq_ok_iff.1 removed
      refine
        ⟨other.setMailbox user (messages.erase identifier),
          .delete visitor ((taken _).trans read)
            (Mailbox.Store.delete_eq_ok_iff.2
              ⟨messages, (alike _ visitor).trans mailbox, found, rfl⟩), ?_⟩
      intro name host
      rw [Mailbox.Store.mailbox?_setMailbox, Mailbox.Store.mailbox?_setMailbox,
        alike name host]
  | logout visitor =>
      exact ⟨other, .logout visitor, alike⟩

/-- Only a user who is logged in has a mailbox that a command changes. -/
theorem mailbox?_eq
    {user : String}
    (stranger : session ≠ .authenticated user) :
    later.mailbox? user = store.mailbox? user := by
  cases succeeds with
  | @delete host number identifier email later visitor read removed =>
      obtain ⟨messages, mailbox, found, rfl⟩ :=
        Mailbox.Store.delete_eq_ok_iff.1 removed
      have other : user ≠ host := by
        rintro rfl
        exact stranger visitor
      rw [Mailbox.Store.mailbox?_setMailbox, if_neg other]
  | quit | login | list | showMail | logout =>
      rfl

/-- No command takes a number from the counter. -/
theorem nextId_eq : later.nextId = store.nextId := by
  cases succeeds with
  | delete visitor read removed =>
      obtain ⟨messages, mailbox, found, rfl⟩ :=
        Mailbox.Store.delete_eq_ok_iff.1 removed
      rfl
  | quit | login | list | showMail | logout =>
      rfl

/-- Before anybody is logged in, no command changes the store. -/
theorem store_eq (nobody : ∀ user, session ≠ .authenticated user) :
    later = store := by
  cases succeeds with
  | delete visitor =>
      exact absurd visitor (nobody _)
  | quit | login | list | showMail | logout =>
      rfl

end Succeeds

end Rules

namespace Session

section Lines

variable
  {session : Session}
  {store other : Mailbox.Store}
  (users : UserTable)
  (line : String)

/-- A line is answered alike where the mailbox of the user is alike. -/
theorem process_alike (alike : session.Alike store other) :
    (session.process users other line).result =
        (session.process users store line).result ∧
      (session.process users other line).session =
        (session.process users store line).session ∧
      session.Alike
        (session.process users store line).store
        (session.process users other line).store := by
  rcases session.process_cases users store line with
    ⟨command, reply, next, later, rfl, succeeds, answer⟩ |
    ⟨error, failed, answer⟩
  · obtain ⟨left, succeedsToo, leftAlike⟩ := succeeds.carry alike
    rw [answer, process_of_succeeds succeedsToo]
    exact ⟨rfl, rfl, leftAlike⟩
  · have failsToo := (perform_eq_error_iff.1 failed).carry alike
    rw [answer, process_of_fails failsToo]
    exact ⟨rfl, rfl, alike⟩

/-- A line changes no mailbox but the one of the user who is logged in. -/
theorem mailbox?_process
    {user : String}
    (stranger : session ≠ .authenticated user) :
    (session.process users store line).store.mailbox? user =
      store.mailbox? user := by
  rcases session.process_cases users store line with
    ⟨command, reply, next, later, _, succeeds, answer⟩ | ⟨error, _, answer⟩
  · rw [answer]
    exact succeeds.mailbox?_eq stranger
  · rw [answer]

/-- A line takes no number from the counter. -/
theorem nextId_process :
    (session.process users store line).store.nextId = store.nextId := by
  rcases session.process_cases users store line with
    ⟨command, reply, next, later, _, succeeds, answer⟩ | ⟨error, _, answer⟩
  · rw [answer]
    exact succeeds.nextId_eq
  · rw [answer]

/-- Before anybody is logged in, a line changes no store. -/
theorem store_process (nobody : ∀ user, session ≠ .authenticated user) :
    (session.process users store line).store = store := by
  rcases session.process_cases users store line with
    ⟨command, reply, next, later, _, succeeds, answer⟩ | ⟨error, _, answer⟩
  · rw [answer]
    exact succeeds.store_eq nobody
  · rw [answer]

end Lines

/--
The results of some lines, each with the session behind it, and the store that
they leave when nobody else uses it.
-/
def converse (users : UserTable) :
    Session →
    Mailbox.Store →
    List String →
    List (Except Error Reply × Session) × Mailbox.Store
  | _, store, [] =>
      ([], store)
  | session, store, line :: rest =>
      let answer := session.process users store line
      let (others, last) := converse users answer.session answer.store rest
      ((answer.result, answer.session) :: others, last)

/-- A user is logged in at the start of a conversation, or becomes so. -/
def Hosts
    (session : Session)
    (turns : List (Except Error Reply × Session))
    (user : String) : Prop :=
  .authenticated user ∈ session :: turns.map Prod.snd

/-- Users of a conversation are logged in at its start or behind its first line. -/
theorem hosts_cons_iff
    {session next : Session}
    {result : Except Error Reply}
    {turns : List (Except Error Reply × Session)}
    {user : String} :
    Hosts session ((result, next) :: turns) user ↔
      session = .authenticated user ∨ Hosts next turns user := by
  simp only [Hosts, List.map_cons, List.mem_cons, eq_comm]

section Conversations

variable (users : UserTable) (lines : List String)

/-- A conversation leaves the mailboxes of all other users alone. -/
theorem mailbox?_converse
    (session : Session)
    (store : Mailbox.Store)
    {user : String}
    (stranger : ¬ Hosts session (session.converse users store lines).1 user) :
    (session.converse users store lines).2.mailbox? user =
      store.mailbox? user := by
  induction lines generalizing session store with
  | nil =>
      rfl
  | cons line rest inductionHypothesis =>
      rw [converse, hosts_cons_iff, not_or] at stranger
      exact (inductionHypothesis _ _ stranger.2).trans
        (mailbox?_process users line stranger.1)

/-- A conversation takes no number from the counter. -/
theorem nextId_converse
    (session : Session)
    (store : Mailbox.Store) :
    (session.converse users store lines).2.nextId = store.nextId := by
  induction lines generalizing session store with
  | nil =>
      rfl
  | cons line rest inductionHypothesis =>
      exact (inductionHypothesis _ _).trans (nextId_process users line)

/-- Stores that are alike for every user of a conversation stay alike in it. -/
theorem converse_alike
    (session : Session)
    {store other : Mailbox.Store}
    (alike :
      ∀ user, Hosts session (session.converse users store lines).1 user →
        other.mailbox? user = store.mailbox? user) :
    (session.converse users other lines).1 =
        (session.converse users store lines).1 ∧
      ∀ user, Hosts session (session.converse users store lines).1 user →
        (session.converse users other lines).2.mailbox? user =
          (session.converse users store lines).2.mailbox? user := by
  induction lines generalizing session store other with
  | nil =>
      exact ⟨rfl, alike⟩
  | cons line rest inductionHypothesis =>
      simp only [converse, hosts_cons_iff] at alike ⊢
      have now : session.Alike store other :=
        fun user host => alike user (Or.inl host)
      obtain ⟨result, next, left⟩ := process_alike users line now
      -- The line changes one mailbox at most, and that one alike in both stores.
      have onward (user : String)
          (hosts :
            session = .authenticated user ∨
              Hosts (session.process users store line).session
                ((session.process users store line).session.converse users
                  (session.process users store line).store rest).1 user) :
          (session.process users other line).store.mailbox? user =
            (session.process users store line).store.mailbox? user := by
        by_cases host : session = .authenticated user
        · exact left user host
        · rw [mailbox?_process users line host,
            mailbox?_process users line host]
          exact alike user hosts
      obtain ⟨same, leftAlike⟩ :=
        inductionHypothesis (session.process users store line).session
          fun user hosts => onward user (Or.inr hosts)
      rw [result, next]
      refine ⟨by rw [same], fun user hosts => ?_⟩
      by_cases later :
          Hosts (session.process users store line).session
            ((session.process users store line).session.converse users
              (session.process users store line).store rest).1 user
      · exact leftAlike user later
      · have laterToo := later
        rw [← same] at laterToo
        rw [mailbox?_converse users rest _ _ later,
          mailbox?_converse users rest _ _ laterToo]
        exact onward user hosts

end Conversations

/--
Two stores that are alike in the mailboxes of all users who are logged in
during a conversation cannot be told apart: every line gets the same result
and leaves the same session, and the stores stay alike in these mailboxes.
Every other mailbox, and the counter, stays in each store what it was.
-/
theorem keeps_to_own_mail
    (users : UserTable)
    (session : Session)
    (store other : Mailbox.Store)
    (lines : List String)
    (alike :
      ∀ user, Hosts session (session.converse users store lines).1 user →
        other.mailbox? user = store.mailbox? user) :
    let here := session.converse users store lines
    let there := session.converse users other lines
    there.1 = here.1 ∧
      (∀ user, Hosts session here.1 user →
        there.2.mailbox? user = here.2.mailbox? user) ∧
      (∀ user, ¬ Hosts session here.1 user →
        here.2.mailbox? user = store.mailbox? user ∧
          there.2.mailbox? user = other.mailbox? user) ∧
      here.2.nextId = store.nextId ∧
      there.2.nextId = other.nextId := by
  intro here there
  obtain ⟨same, leftAlike⟩ := converse_alike users lines session alike
  refine
    ⟨same, leftAlike, fun user stranger => ⟨?_, ?_⟩,
      nextId_converse users lines session store,
      nextId_converse users lines session other⟩
  · exact mailbox?_converse users lines session store stranger
  · exact mailbox?_converse users lines session other (same ▸ stranger)

/-- A user reads and removes own mail, and asks in vain for the mail of another. -/
def ownMailLines : List String :=
  ["login a x", "list", "show 0", "show 1", "delete 0", "list", "logout"]

/-- One message for each of two users. -/
def sharedStore : Mailbox.Store :=
  ((Mailbox.Store.empty.deposit "a" ⟨[], "s", "t", "d"⟩).2.deposit "b"
    ⟨[], "s", "t", "d"⟩).2

/-- The same mail for the first user, and more for the second. -/
def fullerStore : Mailbox.Store :=
  (sharedStore.deposit "b" ⟨[], "secret", "secret", "secret"⟩).2

theorem keeps_to_own_mail_beside_fuller_mailbox :
    let users := .ofList [("a", "x"), ("b", "y")]
    let here := start.converse users sharedStore ownMailLines
    let there := start.converse users fullerStore ownMailLines
    fullerStore.mailbox? "b" ≠ sharedStore.mailbox? "b" ∧
      here.1.map Prod.snd =
        List.replicate 6 (.authenticated "a") ++ [.unauthenticated] ∧
      here.2.mailbox? "a" = some [] ∧
      there.1 = here.1 := by
  intro users here there
  have sessions :
      here.1.map Prod.snd =
        List.replicate 6 (.authenticated "a") ++ [.unauthenticated] := by
    decide +kernel
  have alike :
      ∀ user, Hosts start here.1 user →
        fullerStore.mailbox? user = sharedStore.mailbox? user := by
    intro user hosts
    rw [Hosts, sessions] at hosts
    obtain rfl : user = "a" := by
      simpa [start] using hosts
    decide +kernel
  exact
    ⟨by decide +kernel, sessions, by decide +kernel,
      (keeps_to_own_mail users start sharedStore fullerStore ownMailLines
        alike).1⟩

end Session

end Access

end Postroom
