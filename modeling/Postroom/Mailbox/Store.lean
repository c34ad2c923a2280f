import Postroom.Directory
import Postroom.Email
import Postroom.Text.Decimal

namespace Postroom.Mailbox

/-!
# The mailbox store

All mailboxes of a server share one counter, so a message number names one
message of the whole server. A mailbox appears with its first message and
stays when it is emptied. The lemmas say what every mailbox holds after a
deposit and after a removal.
-/

/-- The number of a message. -/
abbrev MessageId :=
  UInt64

/-- The held messages of one user, by ascending number. -/
abbrev Messages :=
  List (MessageId × Email)

/-- Why the store has no answer. -/
inductive StoreError where
  | noMailbox
  | noSuchMail (identifier : MessageId)
  deriving Repr, DecidableEq

/-- The wording of a store error. -/
def StoreError.message : StoreError → String
  | .noMailbox =>
      "no mailbox found"
  | .noSuchMail identifier =>
      "no mail with id " ++ Text.writeDecimal identifier.toNat

namespace Messages

/-- Put a message at the place of its number. -/
def insert
    (identifier : MessageId)
    (email : Email) :
    Messages →
    Messages
  | [] =>
      [(identifier, email)]
  | first :: rest =>
      if identifier < first.1 then
        (identifier, email) :: first :: rest
      else if identifier = first.1 then
        (identifier, email) :: rest
      else
        first :: insert identifier email rest

/-- The email of a number. -/
def find?
    (messages : Messages)
    (identifier : MessageId) :
    Option Email :=
  (List.find? (·.1 == identifier) messages).map Prod.snd

/-- Remove the message of a number. -/
def erase
    (messages : Messages)
    (identifier : MessageId) :
    Messages :=
  messages.filter (·.1 != identifier)

end Messages

/-- Every mailbox of one server and the number of the next message. -/
structure Store where
  mailboxes : Directory Messages
  nextId : MessageId

namespace Store

/-- The store of a server that has just started. -/
def empty : Store :=
  ⟨.empty, 0⟩

instance : Inhabited Store :=
  ⟨empty⟩

/-- The messages that a user holds, if the user has a mailbox. -/
def mailbox?
    (store : Store)
    (user : String) :
    Option Messages :=
  store.mailboxes.find? user

/-- Whether a user has a mailbox. -/
def hasMailbox
    (store : Store)
    (user : String) :
    Bool :=
  (store.mailbox? user).isSome

/-- Replace the messages of a user. -/
def setMailbox
    (store : Store)
    (user : String)
    (messages : Messages) :
    Store :=
  { store with mailboxes := store.mailboxes.set user messages }

/-- Give a user a message under the next number, which is returned. -/
def deposit
    (store : Store)
    (user : String)
    (email : Email) :
    MessageId × Store :=
  let messages := (store.mailbox? user).getD []
  (store.nextId,
    { store.setMailbox user (messages.insert store.nextId email) with
      nextId := store.nextId + 1 })

/-- How many messages a user holds. -/
def messageCount
    (store : Store)
    (user : String) :
    Nat :=
  ((store.mailbox? user).getD []).length

/-- The messages of a user by ascending number. -/
def list
    (store : Store)
    (user : String) :
    Except StoreError Messages :=
  match store.mailbox? user with
  | none =>
      .error .noMailbox
  | some messages =>
      .ok messages

/-- One message of a user. -/
def get
    (store : Store)
    (user : String)
    (identifier : MessageId) :
    Except StoreError Email :=
  match store.mailbox? user with
  | none =>
      .error .noMailbox
  | some messages =>
      match messages.find? identifier with
      | none =>
          .error (.noSuchMail identifier)
      | some email =>
          .ok email

/-- Remove one message of a user, which is returned. -/
def delete
    (store : Store)
    (user : String)
    (identifier : MessageId) :
    Except StoreError (Email × Store) :=
  (store.get user identifier).map fun email =>
    (email,
      store.setMailbox user
        (((store.mailbox? user).getD []).erase identifier))

@[simp] theorem mailbox?_empty (user : String) :
    empty.mailbox? user = none :=
  rfl

@[simp] theorem mailbox?_setMailbox
    (store : Store)
    (user other : String)
    (messages : Messages) :
    (store.setMailbox user messages).mailbox? other =
      if other = user then some messages else store.mailbox? other := by
  simp [setMailbox, mailbox?]

@[simp] theorem nextId_setMailbox
    (store : Store)
    (user : String)
    (messages : Messages) :
    (store.setMailbox user messages).nextId = store.nextId :=
  rfl

@[simp] theorem fst_deposit
    (store : Store)
    (user : String)
    (email : Email) :
    (store.deposit user email).1 = store.nextId :=
  rfl

/-- A deposit gives the user the message and leaves every other mailbox alone. -/
@[simp] theorem mailbox?_deposit
    (store : Store)
    (user other : String)
    (email : Email) :
    (store.deposit user email).2.mailbox? other =
      if other = user then
        some (((store.mailbox? user).getD []).insert store.nextId email)
      else
        store.mailbox? other :=
  mailbox?_setMailbox store user other _

@[simp] theorem nextId_deposit
    (store : Store)
    (user : String)
    (email : Email) :
    (store.deposit user email).2.nextId = store.nextId + 1 :=
  rfl

/-- A removal succeeds exactly on a held message, which alone it takes away. -/
theorem delete_eq_ok_iff
    {store later : Store}
    {user : String}
    {identifier : MessageId}
    {email : Email} :
    store.delete user identifier = .ok (email, later) ↔
      ∃ messages,
        store.mailbox? user = some messages ∧
          messages.find? identifier = some email ∧
          later = store.setMailbox user (messages.erase identifier) := by
  unfold delete get
  cases mailbox : store.mailbox? user with
  | none =>
      simp [Except.map]
  | some messages =>
      cases found : messages.find? identifier with
      | none =>
          simp [Except.map, found]
      | some held =>
          simp only [Except.map, found, Option.getD_some,
            Except.ok.injEq, Prod.mk.injEq, Option.some.injEq,
            exists_eq_left']
          exact and_congr_right fun _ => eq_comm

end Store

end Postroom.Mailbox
