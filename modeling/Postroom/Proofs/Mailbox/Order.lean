import Postroom.Proofs.Mailbox.EventLog

namespace Postroom.Mailbox

/-!
# Mailboxes are in order

Insertion and removal keep the messages of a mailbox strictly ascending, so
they are strictly ascending in every store that calls can make, even in one
whose counter has run over. In such a mailbox a number names one message, and
a removal cuts out the place of that message.
-/

namespace Messages

/-- Every message has a lower number than those behind it. -/
def Sorted (messages : Messages) : Prop :=
  messages.Pairwise (·.1 < ·.1)

theorem mem_insert
    {messages : Messages}
    {identifier : MessageId}
    {email : Email}
    {message : MessageId × Email}
    (member : message ∈ messages.insert identifier email) :
    message = (identifier, email) ∨ message ∈ messages := by
  induction messages with
  | nil =>
      exact Or.inl (List.mem_singleton.1 member)
  | cons first rest inductionHypothesis =>
      rw [insert] at member
      split at member
      · exact List.mem_cons.1 member
      · split at member
        · exact
            (List.mem_cons.1 member).imp_right (List.mem_cons_of_mem first)
        · rcases List.mem_cons.1 member with rfl | inRest
          · exact Or.inr List.mem_cons_self
          · exact
              (inductionHypothesis inRest).imp_right
                (List.mem_cons_of_mem first)

/-- A number is not found exactly when no message has it. -/
theorem find?_eq_none_iff
    {messages : Messages}
    {identifier : MessageId} :
    messages.find? identifier = none ↔
      identifier ∉ messages.map Prod.fst := by
  simp only [find?, Option.map_eq_none_iff, List.find?_eq_none,
    beq_iff_eq, List.mem_map, not_exists, not_and]

namespace Sorted

variable
  {messages : Messages}
  (sorted : messages.Sorted)

include sorted

/-- An insertion keeps the order, also when it replaces a message. -/
theorem insert
    (identifier : MessageId)
    (email : Email) :
    (messages.insert identifier email).Sorted := by
  induction messages with
  | nil =>
      exact List.pairwise_singleton ..
  | cons first rest inductionHypothesis =>
      obtain ⟨leads, sortedRest⟩ := List.pairwise_cons.1 sorted
      rw [Messages.insert]
      split
      · rename_i before
        refine List.pairwise_cons.2 ⟨?_, sorted⟩
        intro message member
        rcases List.mem_cons.1 member with rfl | inRest
        · exact before
        · exact UInt64.lt_trans before (leads message inRest)
      · rename_i notBefore
        split
        · rename_i same
          exact List.pairwise_cons.2 ⟨same ▸ leads, sortedRest⟩
        · rename_i different
          refine
            List.pairwise_cons.2 ⟨?_, inductionHypothesis sortedRest⟩
          intro message member
          rcases mem_insert member with rfl | inRest
          · exact
              UInt64.lt_of_le_of_ne (UInt64.not_lt.1 notBefore)
                (Ne.symm different)
          · exact leads message inRest

/-- A removal keeps the order. -/
theorem erase (identifier : MessageId) :
    (messages.erase identifier).Sorted :=
  List.Pairwise.filter _ sorted

/-- A message is found exactly where it lies. -/
theorem find?_eq_some_iff
    {identifier : MessageId}
    {email : Email} :
    messages.find? identifier = some email ↔
      (identifier, email) ∈ messages := by
  refine ⟨mem_of_find?_eq_some, fun member => ?_⟩
  induction messages with
  | nil =>
      cases member
  | cons first rest inductionHypothesis =>
      obtain ⟨leads, sortedRest⟩ := List.pairwise_cons.1 sorted
      rw [find?_cons]
      rcases List.mem_cons.1 member with rfl | inRest
      · exact if_pos rfl
      · have behind : identifier ≠ first.1 :=
          (UInt64.ne_of_lt (leads _ inRest)).symm
        rw [if_neg behind]
        exact inductionHypothesis sortedRest inRest

/-- A removal cuts the message of a number out and keeps every other place. -/
theorem exists_erase_eq_append
    {identifier : MessageId}
    {email : Email}
    (member : (identifier, email) ∈ messages) :
    ∃ before behind,
      messages = before ++ (identifier, email) :: behind ∧
        messages.erase identifier = before ++ behind := by
  obtain ⟨before, behind, rfl⟩ := List.append_of_mem member
  obtain ⟨_, sortedBehind, across⟩ := List.pairwise_append.1 sorted
  have notBefore : ∀ message ∈ before, message.1 ≠ identifier :=
    fun message inBefore =>
      UInt64.ne_of_lt (across message inBefore _ List.mem_cons_self)
  have notBehind : ∀ message ∈ behind, message.1 ≠ identifier :=
    fun message inBehind =>
      (UInt64.ne_of_lt
        ((List.pairwise_cons.1 sortedBehind).1 message inBehind)).symm
  refine ⟨before, behind, rfl, ?_⟩
  rw [Messages.erase, List.filter_append, List.filter_cons_of_neg (by simp),
    List.filter_eq_self.2 (by simpa using notBefore),
    List.filter_eq_self.2 (by simpa using notBehind)]

end Sorted

end Messages

namespace Store

/-- Every mailbox is in order. -/
def Sorted (store : Store) : Prop :=
  ∀ user messages, store.mailbox? user = some messages → messages.Sorted

theorem sorted_empty : empty.Sorted := by
  intro user messages found
  cases found

namespace Sorted

variable
  {store : Store}
  (sorted : store.Sorted)

include sorted

/-- One more mailbox in order keeps a store in order. -/
theorem setMailbox
    (user : String)
    {messages : Messages}
    (ordered : messages.Sorted) :
    (store.setMailbox user messages).Sorted := by
  intro other held found
  rw [mailbox?_setMailbox] at found
  split at found
  · exact Option.some.inj found ▸ ordered
  · exact sorted other held found

theorem getD_mailbox? (user : String) :
    Messages.Sorted ((store.mailbox? user).getD []) := by
  cases found : store.mailbox? user with
  | none =>
      exact List.Pairwise.nil
  | some messages =>
      exact sorted user messages found

/-- Every call keeps the order. -/
theorem after (call : Call) : (store.after call).Sorted := by
  cases call with
  | deposit user email =>
      exact
        sorted.setMailbox user ((sorted.getD_mailbox? user).insert _ email)
  | delete user identifier =>
      rw [Store.after]
      cases removed : store.delete user identifier with
      | error reason =>
          exact sorted
      | ok removal =>
          obtain ⟨email, later⟩ := removal
          obtain ⟨messages, found, _, rfl⟩ := delete_eq_ok_iff.1 removed
          exact
            sorted.setMailbox user
              ((sorted user messages found).erase identifier)
  | hasMailbox _ | messageCount _ | list _ | get _ _ =>
      exact sorted

theorem afterAll (calls : List Call) : (store.afterAll calls).Sorted := by
  induction calls generalizing store with
  | nil =>
      exact sorted
  | cons call rest inductionHypothesis =>
      exact inductionHypothesis (sorted.after call)

end Sorted

end Store

end Postroom.Mailbox
