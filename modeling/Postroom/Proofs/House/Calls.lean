import Postroom.House
import Postroom.Proofs.Access.OneView
import Postroom.Proofs.Submission.Transcript

namespace Postroom

/-!
# The calls of a house

Whatever the sessions of a house do to its mail, they do by calls of the
store. So every store that sessions can lead to is a store made by calls, and
what holds of any order of calls holds of any interleaving of sessions. The
main statement is that a visitor has one view of a mailbox, in which a deleted
message never turns up again.
-/

namespace Mailbox

/-- An event of a log is never forgotten. -/
theorem Log.subset_after
    (log : Log)
    (call : Call) :
    log ⊆ log.after call := by
  cases call with
  | deposit user email =>
      exact List.subset_append_left ..
  | delete user identifier =>
      rw [after]
      split
      · exact List.subset_append_left ..
      · exact List.Subset.refl _
  | hasMailbox _ | messageCount _ | list _ | get _ _ =>
      exact List.Subset.refl _

theorem Log.subset_ofCalls_append (earlier later : List Call) :
    Log.ofCalls earlier ⊆ Log.ofCalls (earlier ++ later) := by
  induction later using List.reverseRecOn with
  | nil =>
      rw [List.append_nil]
      exact List.Subset.refl _
  | append_singleton later call inductionHypothesis =>
      rw [← List.append_assoc, ofCalls_concat]
      exact List.Subset.trans inductionHypothesis (subset_after ..)

namespace Store

theorem afterAll_append
    (store : Store)
    (earlier later : List Call) :
    store.afterAll (earlier ++ later) =
      (store.afterAll earlier).afterAll later :=
  List.foldl_append

end Store

/-- What a log says was deleted is missing in the mailbox. -/
theorem Tracks.get_of_deleted
    {log : Log}
    {store : Store}
    (tracks : Tracks log store)
    (few : log.deposits.length < UInt64.size)
    {user : String}
    {identifier : MessageId}
    (owns : store.hasMailbox user = true)
    (deleted : Event.deleted user identifier ∈ log) :
    store.get user identifier = .error (.noSuchMail identifier) := by
  cases got : store.get user identifier with
  | ok email =>
      rw [tracks.get_eq, Log.find_eq_ok_iff few, Log.mem_held_iff few] at got
      exact absurd deleted got.2
  | error failure =>
      rcases Access.get_eq_error_iff.1 got with
        ⟨homeless, _⟩ | ⟨_, _, _, rfl⟩
      · simp [Store.hasMailbox, homeless] at owns
      · rfl

/-- A message that was deleted once is missing for good. -/
theorem get_afterAll_of_deleted
    {earlier later : List Call}
    {user : String}
    {identifier : MessageId}
    {email : Email}
    {left : Store}
    (removed :
      (Store.empty.afterAll earlier).delete user identifier =
        .ok (email, left))
    (few :
      (earlier ++ .delete user identifier :: later).countP Call.isDeposit <
        UInt64.size) :
    let last :=
      Store.empty.afterAll (earlier ++ .delete user identifier :: later)
    last.hasMailbox user = true ∧
      last.get user identifier = .error (.noSuchMail identifier) := by
  intro last
  obtain ⟨before, _⟩ :=
    tracks_ofCalls earlier (by rw [List.countP_append] at few; omega)
  obtain ⟨tracks, counted⟩ := tracks_ofCalls _ few
  have owns : last.hasMailbox user = true := by
    obtain ⟨messages, found, _⟩ := Store.delete_eq_ok_iff.1 removed
    simp only [last, Store.afterAll_append]
    exact
      Store.hasMailbox_afterAll (Store.hasMailbox_of_mailbox? found) _
  have recorded :
      Event.deleted user identifier ∈
        Log.ofCalls (earlier ++ [.delete user identifier]) := by
    have found : (Log.ofCalls earlier).find user identifier = .ok email := by
      rw [← before.fst_delete_eq, removed]
      rfl
    rw [Log.ofCalls_concat, Log.after, found]
    exact List.mem_concat_self
  have kept :
      Event.deleted user identifier ∈
        Log.ofCalls (earlier ++ .delete user identifier :: later) := by
    rw [List.append_cons]
    exact Log.subset_ofCalls_append _ later recorded
  exact ⟨owns, tracks.get_of_deleted (counted ▸ few) owns kept⟩

end Mailbox

open Mailbox (Call Store)

/-- Deposits for several users are calls, one for each of them. -/
theorem MailRoom.depositAll_eq_afterAll
    (store : Store)
    (users : List String)
    (email : Email) :
    MailRoom.depositAll store users email =
      store.afterAll (users.map (.deposit · email)) := by
  rw [Store.afterAll, List.foldl_map]
  rfl

/-- The calls that a submitted line makes. -/
def Submission.Session.calls
    (session : Submission.Session)
    (room : MailRoom)
    (line : String) :
    List Call :=
  match room.intake, session.handed? line with
  | .mailbox domain, some email =>
      (MailRoom.localUsers domain room.users email.recipients).map
        (.deposit · email)
  | _, _ =>
      []

/-- The calls make of the store what a submitted line makes of it. -/
theorem Submission.Session.store_process
    (session : Submission.Session)
    (room : MailRoom)
    (line : String) :
    (session.process room line).room.store =
      room.store.afterAll (session.calls room line) := by
  cases handed : session.handed? line with
  | none =>
      have room :
          (session.process room line).room = room :=
        congrArg Answer.room
          (process_of_not_handed handed fun _ => rfl)
      rw [room, calls, handed]
      split
      · contradiction
      · rfl
  | some email =>
      rw [process_of_handed handed, calls, handed, MailRoom.deliver]
      cases room.intake with
      | mailbox domain =>
          exact MailRoom.depositAll_eq_afterAll ..
      | queue =>
          rfl
      | closedQueue =>
          rfl

namespace Access

/-- The calls of a search for one message: its number is read only for an owner. -/
def searchCalls
    (store : Store)
    (user number : String)
    (call : Mailbox.MessageId → Call) :
    List Call :=
  .hasMailbox user ::
    match messageId store user number with
    | .ok identifier =>
        [call identifier]
    | .error _ =>
        []

/-- The calls that a visitor's command makes. -/
def Session.calls
    (store : Store) :
    Session → Command → List Call
  | .authenticated user, .list =>
      [.list user]
  | .authenticated user, .showMail number =>
      searchCalls store user number (.get user)
  | .authenticated user, .delete number =>
      searchCalls store user number (.delete user)
  | _, _ =>
      []

/-- A search that does not find leaves the store as it is. -/
theorem Unfound.afterAll_searchCalls
    {store : Store}
    {user number : String}
    {error : Error}
    (unfound : Unfound store user number error) :
    store.afterAll (searchCalls store user number (.delete user)) = store := by
  cases unfound with
  | homeless absent =>
      rw [searchCalls, messageId_eq_error_iff.2 (Or.inl ⟨absent, rfl⟩)]
      rfl
  | unreadable owns unread =>
      rw [searchCalls,
        messageId_eq_error_iff.2 (Or.inr ⟨owns, unread, rfl⟩)]
      rfl
  | @missing identifier read absent =>
      have undeleted :
          store.delete user identifier = .error (.noSuchMail identifier) := by
        rw [Store.delete, absent]
        rfl
      rw [searchCalls, read]
      change store.after (.delete user identifier) = store
      rw [Store.after, undeleted]

/-- The calls make of the store what a visitor's line makes of it. -/
theorem Session.store_process_eq_afterAll
    (session : Session)
    (users : UserTable)
    (store : Store)
    (line : String) :
    (session.process users store line).store =
      store.afterAll (session.calls store (Command.ofLine line)) := by
  rcases session.process_cases users store line with
    ⟨command, reply, next, later, rfl, succeeds, answer⟩ |
    ⟨error, failed, answer⟩
  · rw [answer]
    generalize Command.ofLine line = command at succeeds
    cases succeeds with
    | quit =>
        cases session <;> rfl
    | login visitor | list visitor | logout visitor =>
        rw [visitor]
        rfl
    | showMail visitor taken =>
        rw [visitor, calls, searchCalls, taken]
        rfl
    | @delete user number identifier email _ visitor taken removed =>
        rw [visitor, calls, searchCalls, taken]
        change later = store.after (.delete user identifier)
        rw [Store.after, removed]
  · rw [answer]
    generalize Command.ofLine line = command at failed
    cases perform_eq_error_iff.1 failed with
    | login visitor | list visitor =>
        rw [visitor]
        rfl
    | @showMail user number _ visitor =>
        rw [visitor, calls, searchCalls]
        cases messageId store user number <;> rfl
    | delete visitor unfound =>
        rw [visitor]
        exact unfound.afterAll_searchCalls.symm
    | unsupported unsupported =>
        cases session <;> cases command <;> first | rfl | cases unsupported

end Access

namespace House

/-- The calls that an event makes. -/
def callsOf (house : House) : Event → List Call
  | .submission client line =>
      (house.submissions client).calls house.room line
  | .access visitor line =>
      (house.accesses visitor).calls house.room.store
        (Access.Command.ofLine line)
  | .deposit user email =>
      [.deposit user email]

/-- The calls that some events make, in order. -/
def calls (house : House) : List Event → List Call
  | [] =>
      []
  | event :: rest =>
      house.callsOf event ++ (house.after event).calls rest

theorem store_after
    (house : House)
    (event : Event) :
    (house.after event).room.store =
      house.room.store.afterAll (house.callsOf event) := by
  cases event with
  | submission client line =>
      exact (house.submissions client).store_process house.room line
  | access visitor line =>
      exact
        (house.accesses visitor).store_process_eq_afterAll
          house.room.users house.room.store line
  | deposit user email =>
      rfl

/-- Whatever the sessions do to the store, they do by calls. -/
theorem store_afterAll
    (house : House)
    (events : List Event) :
    (house.afterAll events).room.store =
      house.room.store.afterAll (house.calls events) := by
  induction events generalizing house with
  | nil =>
      rfl
  | cons event rest inductionHypothesis =>
      rw [afterAll_cons, inductionHypothesis, store_after, calls,
        Store.afterAll_append]

section Deletion

variable
  {house : House}
  {visitor : Nat}
  {user number : String}
  {identifier : Mailbox.MessageId}
  (visits : house.accesses visitor = .authenticated user)
  (numeral : Text.IsNumeral number identifier.toNat)
  (deleted :
    (house.answerAccess visitor ("delete " ++ number)).1.reply = Reply.ok)

include visits numeral deleted

/-- A deletion that was answered with success is a call that deletes a message. -/
theorem callsOf_delete :
    house.callsOf (.access visitor ("delete " ++ number)) =
        [.hasMailbox user, .delete user identifier] ∧
      ∃ email left,
        house.room.store.delete user identifier = .ok (email, left) := by
  have read :
      Access.Command.ofLine ("delete " ++ number) = .delete number :=
    @Access.Command.ofLine_line (.delete number)
      (Access.space_not_mem_of_isNumeral numeral)
  simp only [answerAccess, visits] at deleted
  rcases (Access.Session.authenticated user).process_cases
      house.room.users house.room.store ("delete " ++ number) with
    ⟨command, reply, next, later, rfl, succeeds, answer⟩ |
    ⟨error, _, answer⟩
  · rw [read] at succeeds
    cases succeeds with
    | @delete _ _ found email _ visitor taken removed =>
        cases visitor
        have same : found = identifier :=
          Option.some.inj
            ((Access.messageId_eq_ok_iff.1 taken).2.symm.trans
              (Access.readMessageId?_eq_some_iff.2 numeral))
        subst same
        refine ⟨?_, email, later, removed⟩
        rw [callsOf, visits, read, Access.Session.calls,
          Access.searchCalls, taken]
  · rw [answer] at deleted
    exact absurd deleted (Reply.error_ne_ok _)

/-- Whatever follows, the message stays missing in the user's mailbox. -/
theorem get_afterAll_of_deleted
    {calls : List Call}
    (made : house.room.store = Store.empty.afterAll calls)
    {later : List Event}
    (few :
      (calls ++
          house.calls (.access visitor ("delete " ++ number) :: later)).countP
        Call.isDeposit < UInt64.size) :
    let last :=
      (house.afterAll
        (.access visitor ("delete " ++ number) :: later)).room.store
    last.hasMailbox user = true ∧
      last.get user identifier = .error (.noSuchMail identifier) := by
  obtain ⟨callsOf, email, left, removed⟩ :=
    callsOf_delete visits numeral deleted
  have arranged :
      calls ++ house.calls (.access visitor ("delete " ++ number) :: later) =
        (calls ++ [.hasMailbox user]) ++
          .delete user identifier ::
            (house.after (.access visitor ("delete " ++ number))).calls
              later := by
    simp [House.calls, callsOf]
  have removedThen :
      (Store.empty.afterAll (calls ++ [.hasMailbox user])).delete
          user identifier =
        .ok (email, left) := by
    rw [Store.afterAll_append, ← made]
    exact removed
  intro last
  have lastMade :
      last =
        Store.empty.afterAll
          (calls ++
            house.calls (.access visitor ("delete " ++ number) :: later)) := by
    rw [Store.afterAll_append, ← made]
    exact house.store_afterAll _
  rw [arranged] at few lastMade
  rw [lastMade]
  exact Mailbox.get_afterAll_of_deleted removedThen few

end Deletion

/--
Listing, showing and deleting agree, and a deleted message is gone for good.

In every store that calls have made, whoever has a mailbox has one view of it
that `OneView` spells out. Sessions and deposits, however they interleave,
lead to stores made by calls again. Once a user's deletion was answered with
success, the number of the message is refused as missing in each later state,
unless the numbers run out.
-/
theorem list_show_delete_agree
    (calls : List Mailbox.Call)
    (house : House)
    (made : house.room.store = Store.empty.afterAll calls) :
    (∀ users user messages,
      house.room.store.mailbox? user = some messages →
      Access.OneView users house.room.store user messages) ∧
      (∀ events,
        (house.afterAll events).room.store =
          Store.empty.afterAll (calls ++ house.calls events)) ∧
      ∀ visitor user number identifier later,
        house.accesses visitor = .authenticated user →
        Text.IsNumeral number identifier.toNat →
        (house.answerAccess visitor ("delete " ++ number)).1.reply =
          Reply.ok →
        let events := .access visitor ("delete " ++ number) :: later
        (calls ++ house.calls events).countP Call.isDeposit <
          UInt64.size →
        ∀ keyword ∈ ["show ", "delete "], ∀ users word,
          Text.IsNumeral word identifier.toNat →
          let last := (house.afterAll events).room.store
          Access.answerTo users last user (keyword ++ word) =
            ⟨.error (.noSuchMail identifier), .authenticated user, last⟩ := by
  refine ⟨?_, ?_, ?_⟩
  · intro users user messages found
    have sorted : house.room.store.Sorted :=
      made ▸ Store.sorted_empty.afterAll calls
    exact Access.oneView_of_sorted users found (sorted user messages found)
  · intro events
    rw [Store.afterAll_append, ← made]
    exact house.store_afterAll events
  · intro visitor user number identifier later visits numeral deleted events
      few keyword seeks users word numeralToo last
    obtain ⟨owns, missing⟩ :=
      get_afterAll_of_deleted visits numeral deleted made few
    have taken : Access.messageId last user word = .ok identifier :=
      Access.messageId_eq_ok_iff.2
        ⟨owns, Access.readMessageId?_eq_some_iff.2 numeralToo⟩
    exact
      Access.answerTo_of_unfound seeks
        (Access.space_not_mem_of_isNumeral numeralToo)
        (.missing taken missing)

/-- Messages for two users, the middle one for another than the others. -/
def mixedCalls : List Call := [
  .deposit "a" ⟨[], "s", "first", "d"⟩,
  .deposit "b" ⟨[], "s", "t", "d"⟩,
  .deposit "a" ⟨[], "s", "second", "d"⟩]

/-- A number may be written in many ways, and is gone for good in each of them. -/
theorem list_show_delete_agree_of_mixed :
    let room : MailRoom :=
      ⟨.mailbox "d", .ofList [("a", "x"), ("b", "y")],
        Store.empty.afterAll mixedCalls, []⟩
    let house : House :=
      ⟨room, fun _ => .start, fun _ => .authenticated "a"⟩
    let events : List Event :=
      [.access 0 "delete +02", .deposit "a" ⟨[], "s", "third", "d"⟩]
    let last := (house.afterAll events).room.store
    let say (store : Store) (line : String) :=
      (Access.answerTo room.users store "a" line).reply.lines
    say room.store "list" = ["0 s first", "2 s second"] ∧
      say room.store "show 1" = ["error no mail with id 1"] ∧
      say last "list" = ["0 s first", "3 s third"] ∧
      say last "show 002" = ["error no mail with id 2"] := by
  intro room house events last say
  obtain ⟨oneView, made, gone⟩ :=
    list_show_delete_agree mixedCalls house rfl
  have before := oneView room.users "a" _ rfl
  have numeral : Text.IsNumeral "1" (1 : Mailbox.MessageId).toNat :=
    Text.isNumeral_writeDecimal 1
  refine ⟨before.listed, ?_, ?_, ?_⟩
  · exact before.missing "show " (by decide) 1 "1" (by decide) numeral
  · have found :
        last.mailbox? "a" =
          some [(0, ⟨[], "s", "first", "d"⟩), (3, ⟨[], "s", "third", "d"⟩)] := by
      decide +kernel
    have behind := list_show_delete_agree _ _ (made events)
    exact (behind.1 room.users "a" _ found).listed
  · have signed : Text.IsNumeral "+02" (2 : Mailbox.MessageId).toNat :=
      Text.readDecimal?_eq_some_iff.1 (by decide +kernel)
    have again : Text.IsNumeral "002" (2 : Mailbox.MessageId).toNat :=
      Text.readDecimal?_eq_some_iff.1 (by decide +kernel)
    have deleted :
        (house.answerAccess 0 "delete +02").1.reply = Reply.ok := by
      decide +kernel
    have few :
        (mixedCalls ++ house.calls events).countP Call.isDeposit <
          UInt64.size := by
      decide +kernel
    have missing :=
      gone 0 "a" "+02" 2 _ rfl signed deleted few "show " (by decide)
        room.users "002" again
    exact congrArg (fun answer => answer.reply.lines) missing

end House

end Postroom
