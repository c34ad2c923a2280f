import Postroom.Proofs.Access.Farewell
import Postroom.Proofs.Access.Wording
import Postroom.Proofs.Mailbox.Order
import Postroom.Proofs.Text.Numerals

namespace Postroom.Access

/-!
# One view of a mailbox

Listing, showing and deleting look at the same messages. A user reads the
numbers off the listing, may write each of them in other ways, and finds
behind a number what its line promised. Numbers of nobody and numbers of
others are told apart from held ones by one and the same reply.
-/

/-- The answer to a line of a user who is logged in. -/
def answerTo
    (users : UserTable)
    (store : Mailbox.Store)
    (user line : String) :
    Answer :=
  (Session.authenticated user).process users store line

/-- What a listing tells of some messages. -/
def listingLines : Mailbox.Messages → List String
  | [] =>
      ["ok"]
  | messages =>
      messages.map fun (identifier, email) =>
        Text.writeDecimal identifier.toNat ++ " " ++
          email.sender ++ " " ++ email.subject

/-- The three ways of looking at the messages of a user agree. -/
structure OneView
    (users : UserTable)
    (store : Mailbox.Store)
    (user : String)
    (messages : Mailbox.Messages) : Prop where
  ascending :
    (messages.map Prod.fst).Pairwise (· < ·)
  listed :
    (answerTo users store user "list").reply.lines = listingLines messages
  plain :
    (answerTo users store user "list").reply = Reply.ok ↔ messages = []
  /-- A word is taken for a number exactly when it is a numeral in range. -/
  unread :
    ∀ keyword ∈ ["show ", "delete "], ∀ word,
      ' ' ∉ word.toList →
      ((answerTo users store user (keyword ++ word)).result =
          .error .invalidNumber ↔
        ¬ ∃ value < UInt64.size, Text.IsNumeral word value)
  shown :
    ∀ identifier email word,
      (identifier, email) ∈ messages →
      Text.IsNumeral word identifier.toNat →
      (answerTo users store user ("show " ++ word)).reply.lines =
        [
          "from " ++ email.sender,
          "to " ++ email.recipientList,
          "subject " ++ email.subject,
          "data " ++ email.data
        ]
  missing :
    ∀ keyword ∈ ["show ", "delete "], ∀ identifier word,
      identifier ∉ messages.map Prod.fst →
      Text.IsNumeral word identifier.toNat →
      (answerTo users store user (keyword ++ word)).reply.lines =
        ["error no mail with id " ++ Text.writeDecimal identifier.toNat]
  /-- Held numbers can be deleted, and nothing else. -/
  deletable :
    ∀ word,
      (answerTo users store user ("delete " ++ word)).reply = Reply.ok ↔
        ∃ identifier ∈ messages.map Prod.fst,
          Text.IsNumeral word identifier.toNat
  /-- Behind a deletion the listing has the same lines but one. -/
  deleted :
    ∀ identifier email word,
      (identifier, email) ∈ messages →
      Text.IsNumeral word identifier.toNat →
      let later := (answerTo users store user ("delete " ++ word)).store
      ∃ before behind,
        messages = before ++ (identifier, email) :: behind ∧
          (answerTo users later user "list").reply.lines =
            listingLines (before ++ behind)

/-- A numeral is one word. -/
theorem space_not_mem_of_isNumeral
    {word : String}
    {value : Nat}
    (numeral : Text.IsNumeral word value) :
    ' ' ∉ word.toList :=
  numeral.not_mem (by decide) (by decide)

/-- A listing is a plain success when there is nothing to list. -/
theorem listing_eq_ok_iff {messages : Mailbox.Messages} :
    Reply.listing (messages.map listingLine) = Reply.ok ↔ messages = [] := by
  cases messages with
  | nil =>
      exact iff_of_true rfl rfl
  | cons first others =>
      refine iff_of_false (fun same => ?_) (List.cons_ne_nil first others)
      exact
        listingLine_ne (by decide) rfl first (congrArg Reply.first same)

theorem lines_listing (messages : Mailbox.Messages) :
    (Reply.listing (messages.map listingLine)).lines =
      listingLines messages := by
  cases messages <;> rfl

/-- A missing message is named in decimal digits. -/
theorem lines_noSuchMail (identifier : Mailbox.MessageId) :
    (Error.noSuchMail identifier).reply.lines =
      ["error no mail with id " ++ Text.writeDecimal identifier.toNat] := by
  have joined :
      "error no mail with id " = "error " ++ "no mail with id " :=
    rfl
  rw [joined, String.append_assoc]
  rfl

section Answers

variable
  {users : UserTable}
  {store : Mailbox.Store}
  {user word : String}

/-- What is not found is refused alike, whether to be shown or to be deleted. -/
theorem answerTo_of_unfound
    {keyword : String}
    (seeks : keyword ∈ ["show ", "delete "])
    (oneWord : ' ' ∉ word.toList)
    {error : Error}
    (unfound : Unfound store user word error) :
    answerTo users store user (keyword ++ word) =
      ⟨.error error, .authenticated user, store⟩ := by
  have fails :
      Fails (.authenticated user) users store
        (Command.ofLine (keyword ++ word)) error := by
    simp only [List.mem_cons, List.not_mem_nil, or_false] at seeks
    rcases seeks with rfl | rfl
    · have read : Command.ofLine ("show " ++ word) = .showMail word :=
        @Command.ofLine_line (.showMail word) oneWord
      exact read ▸ .showMail rfl unfound
    · have read : Command.ofLine ("delete " ++ word) = .delete word :=
        @Command.ofLine_line (.delete word) oneWord
      exact read ▸ .delete rfl unfound
  rw [answerTo, Session.process_of_fails fails, unfound.endsSession]
  rfl

variable
  {messages : Mailbox.Messages}
  (found : store.mailbox? user = some messages)

include found

theorem answerTo_list :
    answerTo users store user "list" =
      ⟨.ok (Reply.listing (messages.map listingLine)),
        .authenticated user, store⟩ := by
  have read : Command.ofLine "list" = .list :=
    @Command.ofLine_line .list trivial
  have listed : store.list user = .ok messages := by
    rw [Mailbox.Store.list, found]
  exact Session.process_of_succeeds (read ▸ .list rfl listed)

section Numbers

variable
  {identifier : Mailbox.MessageId}
  (numeral : Text.IsNumeral word identifier.toNat)

include numeral

theorem messageId_of_isNumeral :
    messageId store user word = .ok identifier :=
  messageId_eq_ok_iff.2
    ⟨Mailbox.Store.hasMailbox_of_mailbox? found,
      readMessageId?_eq_some_iff.2 numeral⟩

/-- A held message is shown. -/
theorem answerTo_show
    {email : Email}
    (held : messages.find? identifier = some email) :
    answerTo users store user ("show " ++ word) =
      ⟨.ok (Reply.listing (emailLines email)),
        .authenticated user, store⟩ := by
  have read : Command.ofLine ("show " ++ word) = .showMail word :=
    @Command.ofLine_line (.showMail word)
      (space_not_mem_of_isNumeral numeral)
  have got : store.get user identifier = .ok email := by
    simp only [Mailbox.Store.get, found, held]
  exact Session.process_of_succeeds
    (read ▸ .showMail rfl (messageId_of_isNumeral found numeral) got)

/-- A held message is deleted. -/
theorem answerTo_delete
    {email : Email}
    (held : messages.find? identifier = some email) :
    answerTo users store user ("delete " ++ word) =
      ⟨.ok Reply.ok, .authenticated user,
        store.setMailbox user (messages.erase identifier)⟩ := by
  have read : Command.ofLine ("delete " ++ word) = .delete word :=
    @Command.ofLine_line (.delete word)
      (space_not_mem_of_isNumeral numeral)
  have removed :
      store.delete user identifier =
        .ok (email, store.setMailbox user (messages.erase identifier)) :=
    Mailbox.Store.delete_eq_ok_iff.2 ⟨messages, found, held, rfl⟩
  exact Session.process_of_succeeds
    (read ▸ .delete rfl (messageId_of_isNumeral found numeral) removed)

/-- What is not held is missing, whoever else may hold it. -/
theorem unfound_of_find?_eq_none
    (absent : messages.find? identifier = none) :
    Unfound store user word (.noSuchMail identifier) := by
  refine .missing (messageId_of_isNumeral found numeral) ?_
  simp only [Mailbox.Store.get, found, absent]

end Numbers

/-- What denotes no message number is refused as such. -/
theorem unfound_of_readMessageId?_eq_none
    (unread : readMessageId? word = none) :
    Unfound store user word .invalidNumber :=
  .unreadable (Mailbox.Store.hasMailbox_of_mailbox? found) unread

/-- A word is refused as no number exactly when it denotes none. -/
theorem answerTo_eq_invalidNumber_iff
    {keyword : String}
    (seeks : keyword ∈ ["show ", "delete "])
    (oneWord : ' ' ∉ word.toList) :
    (answerTo users store user (keyword ++ word)).result =
        .error .invalidNumber ↔
      ¬ ∃ value < UInt64.size, Text.IsNumeral word value := by
  rw [← readMessageId?_eq_none_iff]
  cases read : readMessageId? word with
  | none =>
      refine iff_of_true ?_ rfl
      rw [answerTo_of_unfound seeks oneWord
        (unfound_of_readMessageId?_eq_none found read)]
  | some identifier =>
      refine iff_of_false ?_ (Option.some_ne_none identifier)
      have numeral := readMessageId?_eq_some_iff.1 read
      cases held : messages.find? identifier with
      | none =>
          rw [answerTo_of_unfound seeks oneWord
            (unfound_of_find?_eq_none found numeral held)]
          simp
      | some email =>
          simp only [List.mem_cons, List.not_mem_nil, or_false] at seeks
          rcases seeks with rfl | rfl
          · simp [answerTo_show found numeral held]
          · simp [answerTo_delete found numeral held]

/-- A deletion succeeds on the numerals of held messages, and on nothing else. -/
theorem reply_delete_eq_ok_iff :
    (answerTo users store user ("delete " ++ word)).reply = Reply.ok ↔
      ∃ identifier ∈ messages.map Prod.fst,
        Text.IsNumeral word identifier.toNat := by
  constructor
  · intro answered
    rcases (Session.authenticated user).process_cases
        users store ("delete " ++ word) with
      ⟨command, reply, next, later, read, succeeds, answer⟩ |
      ⟨error, _, answer⟩
    · have line := Command.eq_line_of_ofLine read
      rw [answerTo, answer] at answered
      cases succeeds with
      | @delete _ number identifier email _ visitor taken removed =>
          obtain rfl : word = number := (String.append_right_inj _).1 line
          cases visitor
          obtain ⟨held, same, lies, _⟩ :=
            Mailbox.Store.delete_eq_ok_iff.1 removed
          cases same.symm.trans found
          exact
            ⟨identifier,
              List.mem_map_of_mem (Mailbox.Messages.mem_of_find?_eq_some lies),
              readMessageId?_eq_some_iff.1 (messageId_eq_ok_iff.1 taken).2⟩
      | quit | login | list | showMail | logout =>
          exact absurd (congrArg String.toList line) (by simp [Command.line])
    · rw [answerTo, answer] at answered
      exact absurd answered (Reply.error_ne_ok _)
  · rintro ⟨identifier, member, numeral⟩
    cases held : messages.find? identifier with
    | none =>
        exact absurd member (Mailbox.Messages.find?_eq_none_iff.1 held)
    | some email =>
        rw [answerTo_delete found numeral held]
        rfl

end Answers

/-- Whoever has a mailbox in order has one view of it. -/
theorem oneView_of_sorted
    (users : UserTable)
    {store : Mailbox.Store}
    {user : String}
    {messages : Mailbox.Messages}
    (found : store.mailbox? user = some messages)
    (sorted : messages.Sorted) :
    OneView users store user messages where
  ascending :=
    List.pairwise_map.2 sorted
  listed := by
    rw [answerTo_list found]
    exact lines_listing messages
  plain := by
    rw [answerTo_list found]
    exact listing_eq_ok_iff
  unread keyword seeks word oneWord :=
    answerTo_eq_invalidNumber_iff found seeks oneWord
  shown identifier email word held numeral := by
    rw [answerTo_show found numeral (sorted.find?_eq_some_iff.2 held)]
    rfl
  missing keyword seeks identifier word absent numeral := by
    rw [answerTo_of_unfound seeks (space_not_mem_of_isNumeral numeral)
      (unfound_of_find?_eq_none found numeral
        (Mailbox.Messages.find?_eq_none_iff.2 absent))]
    exact lines_noSuchMail identifier
  deletable word :=
    reply_delete_eq_ok_iff found
  deleted identifier email word held numeral := by
    obtain ⟨before, behind, cut, left⟩ :=
      sorted.exists_erase_eq_append held
    have later :
        (store.setMailbox user (before ++ behind)).mailbox? user =
          some (before ++ behind) := by
      simp
    refine ⟨before, behind, cut, ?_⟩
    rw [answerTo_delete found numeral (sorted.find?_eq_some_iff.2 held),
      left, answerTo_list later]
    exact lines_listing (before ++ behind)

end Postroom.Access
