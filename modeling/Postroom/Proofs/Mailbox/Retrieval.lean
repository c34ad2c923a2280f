import Postroom.MailRoom

namespace Postroom

/-!
# What is found in a store

What a user finds depends on the user's own mailbox only. A deposited message
is found under its number, whatever the mailbox held before, and deposits for
other users leave it there. So each of several users finds the copy of an
email that was deposited for all of them.
-/

namespace Mailbox

namespace Messages

/-- The first message is found under its number. -/
theorem find?_cons
    (first : MessageId × Email)
    (rest : Messages)
    (identifier : MessageId) :
    Messages.find? (first :: rest) identifier =
      if identifier = first.1 then some first.2 else rest.find? identifier := by
  by_cases same : first.1 = identifier
  · simp [find?, same]
  · simp [find?, same, Ne.symm same]

/-- Behind an insertion the inserted email is found, and every other one as before. -/
theorem find?_insert
    (messages : Messages)
    (identifier other : MessageId)
    (email : Email) :
    (messages.insert identifier email).find? other =
      if other = identifier then some email else messages.find? other := by
  induction messages with
  | nil =>
      exact find?_cons (identifier, email) [] other
  | cons first rest inductionHypothesis =>
      rw [insert]
      split
      · exact find?_cons (identifier, email) (first :: rest) other
      · split
        · rename_i replaced
          rw [find?_cons, find?_cons, ← replaced]
          by_cases same : other = identifier <;> simp [same]
        · rename_i different
          rw [find?_cons, find?_cons, inductionHypothesis]
          by_cases front : other = first.1
          · simp [front, Ne.symm different]
          · simp [front]

end Messages

namespace Store

section Congruence

variable
  {store other : Store}
  {user : String}
  (alike : other.mailbox? user = store.mailbox? user)

include alike

theorem hasMailbox_congr : other.hasMailbox user = store.hasMailbox user := by
  simp only [hasMailbox, alike]

theorem list_congr : other.list user = store.list user := by
  simp only [list, alike]

theorem get_congr (identifier : MessageId) :
    other.get user identifier = store.get user identifier := by
  simp only [get, alike]

end Congruence

/-- Whoever holds messages, be it none, has a mailbox. -/
theorem hasMailbox_of_mailbox?
    {store : Store}
    {user : String}
    {messages : Messages}
    (found : store.mailbox? user = some messages) :
    store.hasMailbox user = true := by
  rw [hasMailbox, found]
  rfl

/-- A message that is found lies in a mailbox. -/
theorem hasMailbox_of_get
    {store : Store}
    {user : String}
    {identifier : MessageId}
    {email : Email}
    (found : store.get user identifier = .ok email) :
    store.hasMailbox user = true := by
  unfold get at found
  split at found
  · cases found
  · rename_i mailbox
    exact hasMailbox_of_mailbox? mailbox

end Store

end Mailbox

namespace MailRoom

open Mailbox (MessageId Store)

/-- Deposits for others leave a mailbox alone. -/
theorem mailbox?_depositAll_of_not_mem
    {users : List String}
    {user : String}
    (absent : user ∉ users)
    (store : Store)
    (email : Email) :
    (depositAll store users email).mailbox? user = store.mailbox? user := by
  induction users generalizing store with
  | nil =>
      rfl
  | cons first rest inductionHypothesis =>
      rw [List.mem_cons, not_or] at absent
      have later := inductionHypothesis absent.2 (store.deposit first email).2
      rw [Store.mailbox?_deposit, if_neg absent.1] at later
      exact later

/-- Each of several users is given one copy, under the number of its turn. -/
theorem mailbox?_depositAll
    {users : List String}
    (distinct : users.Nodup)
    {place : Nat}
    {user : String}
    (placed : users[place]? = some user)
    (store : Store)
    (email : Email) :
    (depositAll store users email).mailbox? user =
      some
        (((store.mailbox? user).getD []).insert
          (store.nextId + UInt64.ofNat place) email) := by
  induction users generalizing store place with
  | nil =>
      cases placed
  | cons first rest inductionHypothesis =>
      obtain ⟨absent, distinctRest⟩ := List.nodup_cons.1 distinct
      let next := (store.deposit first email).2
      change (depositAll next rest email).mailbox? user = _
      cases place with
      | zero =>
          obtain rfl : first = user := by
            simpa using placed
          rw [mailbox?_depositAll_of_not_mem absent next email]
          simp [next]
      | succ place =>
          have later := inductionHypothesis distinctRest placed next
          have number :
              next.nextId + UInt64.ofNat place =
                store.nextId + UInt64.ofNat (place + 1) := by
            rw [UInt64.ofNat_add, UInt64.add_comm (UInt64.ofNat place),
              ← UInt64.add_assoc]
            rfl
          have other : user ≠ first := by
            rintro rfl
            exact absent (List.mem_of_getElem? placed)
          have kept : next.mailbox? user = store.mailbox? user := by
            simp [next, other]
          rwa [number, kept] at later

/-- Each of several users finds the copy that was made in its turn. -/
theorem get_depositAll
    {users : List String}
    (distinct : users.Nodup)
    {place : Nat}
    {user : String}
    (placed : users[place]? = some user)
    (store : Store)
    (email : Email) :
    (depositAll store users email).get user
        (store.nextId + UInt64.ofNat place) =
      .ok email := by
  simp only [Store.get, mailbox?_depositAll distinct placed,
    Mailbox.Messages.find?_insert, ↓reduceIte]

end MailRoom

end Postroom
