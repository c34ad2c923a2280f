import Mathlib.Data.List.Nodup
import Postroom.Mailbox.Store

namespace Postroom.Mailbox

/-!
# Ledgers

A ledger is a store seen from outside: every copy that was ever made, in the
order in which the copies were made, and those of them that were not removed.
A copy bears the number of copies made before it. The main statements say that
a store which a ledger describes is described by the ledger's successor after
a deposit and after a removal.
-/

namespace Messages

/-- A message with the greatest number goes to the end. -/
theorem insert_eq_append
    {messages : Messages}
    {identifier : MessageId}
    {email : Email}
    (greatest : ∀ message ∈ messages, message.1 < identifier) :
    messages.insert identifier email = messages ++ [(identifier, email)] := by
  induction messages with
  | nil =>
      rfl
  | cons first rest inductionHypothesis =>
      have below : first.1 < identifier :=
        greatest first List.mem_cons_self
      have notBefore : ¬ identifier < first.1 :=
        fun before => UInt64.lt_irrefl _ (UInt64.lt_trans before below)
      have different : identifier ≠ first.1 :=
        fun same => UInt64.lt_irrefl _ (same ▸ below)
      have inserted :=
        inductionHypothesis fun message member =>
          greatest message (List.mem_cons_of_mem first member)
      simp [insert, notBefore, different, inserted]

/-- A message is found among the held ones. -/
theorem mem_of_find?_eq_some
    {messages : Messages}
    {identifier : MessageId}
    {email : Email}
    (found : messages.find? identifier = some email) :
    (identifier, email) ∈ messages := by
  simp only [find?, Option.map_eq_some_iff] at found
  rcases found with ⟨message, first, rfl⟩
  have same : message.1 = identifier := by
    simpa using List.find?_some first
  rw [← same]
  exact List.mem_of_find?_eq_some first

end Messages

/-- The messages that a user holds. -/
def Store.held
    (store : Store)
    (user : String) :
    Messages :=
  (store.mailbox? user).getD []

/-- One email in the mailbox of one user. -/
structure Copy where
  /-- How many copies were made before. -/
  number : Nat
  user : String
  email : Email
  deriving Repr, DecidableEq

/-- A copy as its mailbox holds it. -/
def Copy.message (copy : Copy) : MessageId × Email :=
  (UInt64.ofNat copy.number, copy.email)

/-- What became of every copy that was made. -/
structure Ledger where
  /-- Every copy that was ever made, oldest first. -/
  issued : List Copy
  /-- The copies that were not removed, oldest first. -/
  held : List Copy
  deriving Repr, DecidableEq

namespace Ledger

/-- The ledger without copies. -/
def empty : Ledger :=
  ⟨[], []⟩

/-- Make a copy for a user, under the next number. -/
def issue
    (email : Email)
    (ledger : Ledger)
    (user : String) :
    Ledger :=
  let copy := ⟨ledger.issued.length, user, email⟩
  ⟨ledger.issued ++ [copy], ledger.held ++ [copy]⟩

/-- Remove the copy of a user that has a number. -/
def remove
    (ledger : Ledger)
    (user : String)
    (identifier : MessageId) :
    Ledger :=
  { ledger with
    held :=
      ledger.held.filter fun copy =>
        !(copy.user == user && copy.number == identifier.toNat) }

/-- The messages that a user holds. -/
def messages
    (ledger : Ledger)
    (user : String) :
    Messages :=
  (ledger.held.filter (·.user == user)).map Copy.message

/-- The mailbox of a user, who has one since the first copy. -/
def mailbox?
    (ledger : Ledger)
    (user : String) :
    Option Messages :=
  if user ∈ ledger.issued.map Copy.user then
    some (ledger.messages user)
  else
    none

/-- Copies bear the numbers from zero on, and only copies that were made are held. -/
structure Sound (ledger : Ledger) : Prop where
  numbers :
    ledger.issued.map Copy.number = List.range ledger.issued.length
  held :
    ledger.held.Sublist ledger.issued

/-- The store holds what the ledger says, and will go on with its next number. -/
structure Describes
    (ledger : Ledger)
    (store : Store) : Prop where
  nextId :
    store.nextId = UInt64.ofNat ledger.issued.length
  mailbox :
    ∀ user, store.mailbox? user = ledger.mailbox? user

@[simp] theorem issued_issue
    (email : Email)
    (ledger : Ledger)
    (user : String) :
    (ledger.issue email user).issued =
      ledger.issued ++ [⟨ledger.issued.length, user, email⟩] :=
  rfl

@[simp] theorem held_issue
    (email : Email)
    (ledger : Ledger)
    (user : String) :
    (ledger.issue email user).held =
      ledger.held ++ [⟨ledger.issued.length, user, email⟩] :=
  rfl

@[simp] theorem issued_remove
    (ledger : Ledger)
    (user : String)
    (identifier : MessageId) :
    (ledger.remove user identifier).issued = ledger.issued :=
  rfl

/-- A removal takes exactly the copy with that user and that number. -/
theorem mem_held_remove
    {ledger : Ledger}
    {user : String}
    {identifier : MessageId}
    {copy : Copy} :
    copy ∈ (ledger.remove user identifier).held ↔
      copy ∈ ledger.held ∧
        ¬ (copy.user = user ∧ copy.number = identifier.toNat) := by
  simp only [remove, List.mem_filter, Bool.not_eq_true',
    Bool.and_eq_false_iff, beq_eq_false_iff_ne, not_and_or]

theorem sound_empty : empty.Sound where
  numbers :=
    rfl
  held :=
    List.Sublist.refl []

theorem describes_empty : empty.Describes Store.empty where
  nextId :=
    rfl
  mailbox _ :=
    rfl

namespace Sound

/-- A copy bears a number below the number of copies. -/
theorem number_lt
    {ledger : Ledger}
    (sound : ledger.Sound)
    {copy : Copy}
    (member : copy ∈ ledger.issued) :
    copy.number < ledger.issued.length := by
  have inRange : copy.number ∈ List.range ledger.issued.length := by
    rw [← sound.numbers]
    exact List.mem_map_of_mem member
  exact List.mem_range.1 inRange

/-- No two copies bear the same number. -/
theorem eq_of_number_eq
    {ledger : Ledger}
    (sound : ledger.Sound)
    {first second : Copy}
    (firstMember : first ∈ ledger.issued)
    (secondMember : second ∈ ledger.issued)
    (same : first.number = second.number) :
    first = second := by
  have distinct : (ledger.issued.map Copy.number).Nodup := by
    rw [sound.numbers]
    exact List.nodup_range
  exact List.inj_on_of_nodup_map distinct firstMember secondMember same

theorem issue
    {ledger : Ledger}
    (sound : ledger.Sound)
    (email : Email)
    (user : String) :
    (ledger.issue email user).Sound where
  numbers := by
    simp [sound.numbers, List.range_succ]
  held :=
    sound.held.append (List.Sublist.refl _)

theorem remove
    {ledger : Ledger}
    (sound : ledger.Sound)
    (user : String)
    (identifier : MessageId) :
    (ledger.remove user identifier).Sound where
  numbers :=
    sound.numbers
  held :=
    List.filter_sublist.trans sound.held

/-- Who was never given a copy holds none. -/
theorem getD_mailbox?
    {ledger : Ledger}
    (sound : ledger.Sound)
    (user : String) :
    (ledger.mailbox? user).getD [] = ledger.messages user := by
  unfold mailbox?
  split
  · rfl
  · rename_i never
    have none : ledger.held.filter (·.user == user) = [] := by
      rw [List.filter_eq_nil_iff]
      intro copy member same
      have owner : copy.user = user := by
        simpa using same
      exact never
        (owner ▸ List.mem_map_of_mem (sound.held.subset member))
    simp [messages, none]

/-- The next number is above every number that is held. -/
theorem lt_nextId
    {ledger : Ledger}
    (sound : ledger.Sound)
    (few : ledger.issued.length < UInt64.size)
    {user : String}
    {message : MessageId × Email}
    (member : message ∈ ledger.messages user) :
    message.1 < UInt64.ofNat ledger.issued.length := by
  obtain ⟨copy, inHeld, rfl⟩ := List.mem_map.1 member
  have below :=
    sound.number_lt (sound.held.subset (List.mem_of_mem_filter inHeld))
  rw [UInt64.lt_iff_toNat_lt, Copy.message,
    UInt64.toNat_ofNat_of_lt' (Nat.lt_trans below few),
    UInt64.toNat_ofNat_of_lt' few]
  exact below

end Sound

theorem messages_issue
    (email : Email)
    (ledger : Ledger)
    (user other : String) :
    (ledger.issue email user).messages other =
      if other = user then
        ledger.messages user ++
          [(UInt64.ofNat ledger.issued.length, email)]
      else
        ledger.messages other := by
  split
  · rename_i same
    subst other
    simp [messages, Copy.message]
  · rename_i different
    simp [messages, Ne.symm different]

theorem mailbox?_issue
    (email : Email)
    (ledger : Ledger)
    (user other : String) :
    (ledger.issue email user).mailbox? other =
      if other = user then
        some
          (ledger.messages user ++
            [(UInt64.ofNat ledger.issued.length, email)])
      else
        ledger.mailbox? other := by
  simp only [mailbox?, messages_issue]
  by_cases same : other = user
  · simp [same]
  · simp [same]

/-- A held copy is found under its number. -/
theorem mem_messages_iff
    {ledger : Ledger}
    (sound : ledger.Sound)
    (few : ledger.issued.length < UInt64.size)
    {user : String}
    {identifier : MessageId}
    {email : Email} :
    (identifier, email) ∈ ledger.messages user ↔
      ⟨identifier.toNat, user, email⟩ ∈ ledger.held := by
  simp only [messages, List.mem_map, List.mem_filter, beq_iff_eq]
  constructor
  · rintro ⟨copy, ⟨member, rfl⟩, shape⟩
    obtain ⟨rfl, rfl⟩ := Prod.mk.inj shape
    have below := sound.number_lt (sound.held.subset member)
    rw [UInt64.toNat_ofNat_of_lt' (Nat.lt_trans below few)]
    exact member
  · intro member
    exact ⟨_, ⟨member, rfl⟩, by simp [Copy.message]⟩

theorem messages_remove
    {ledger : Ledger}
    (sound : ledger.Sound)
    (few : ledger.issued.length < UInt64.size)
    (user other : String)
    (identifier : MessageId) :
    (ledger.remove user identifier).messages other =
      if other = user then
        (ledger.messages user).erase identifier
      else
        ledger.messages other := by
  have named :
      ∀ copy ∈ ledger.held,
        (UInt64.ofNat copy.number = identifier ↔
          copy.number = identifier.toNat) := by
    intro copy member
    have below := sound.number_lt (sound.held.subset member)
    rw [← UInt64.toNat_inj,
      UInt64.toNat_ofNat_of_lt' (Nat.lt_trans below few)]
  simp only [messages, remove, Messages.erase, List.filter_filter]
  split
  · rename_i same
    subst other
    rw [List.filter_map, List.filter_filter]
    congr 1
    apply List.filter_congr
    intro copy member
    have sameNumber :
        (copy.number == identifier.toNat) =
          (UInt64.ofNat copy.number == identifier) := by
      rw [Bool.eq_iff_iff, beq_iff_eq, beq_iff_eq, named copy member]
    simp only [sameNumber, Function.comp_apply, Copy.message, bne]
    cases copy.user == user <;> simp
  · rename_i different
    congr 1
    apply List.filter_congr
    intro copy member
    by_cases owner : copy.user = other
    · simp [owner, different]
    · simp [owner]

namespace Describes

/-- A deposit makes the copy that the ledger issues. -/
theorem deposit
    {ledger : Ledger}
    {store : Store}
    (describes : ledger.Describes store)
    (sound : ledger.Sound)
    (few : ledger.issued.length < UInt64.size)
    (user : String)
    (email : Email) :
    (ledger.issue email user).Describes (store.deposit user email).2 where
  nextId := by
    simp [describes.nextId]
  mailbox other := by
    rw [Store.mailbox?_deposit, mailbox?_issue, describes.mailbox,
      describes.mailbox, sound.getD_mailbox?, describes.nextId,
      Messages.insert_eq_append fun _ => sound.lt_nextId few]

/-- A removal takes one copy of the user, the one with the number. -/
theorem delete
    {ledger : Ledger}
    {store later : Store}
    {user : String}
    {identifier : MessageId}
    {email : Email}
    (describes : ledger.Describes store)
    (sound : ledger.Sound)
    (few : ledger.issued.length < UInt64.size)
    (removed : store.delete user identifier = .ok (email, later)) :
    (ledger.remove user identifier).Describes later ∧
      ⟨identifier.toNat, user, email⟩ ∈ ledger.held := by
  obtain ⟨messages, mailbox, found, rfl⟩ :=
    Store.delete_eq_ok_iff.1 removed
  rw [describes.mailbox] at mailbox
  have owner : user ∈ ledger.issued.map Copy.user := by
    by_contra never
    simp [mailbox?, never] at mailbox
  have shape : ledger.messages user = messages := by
    simpa [mailbox?, owner] using mailbox
  constructor
  · constructor
    · exact describes.nextId
    · intro other
      rw [Store.mailbox?_setMailbox, describes.mailbox]
      simp only [mailbox?, issued_remove, messages_remove sound few, ← shape]
      split
      · rename_i same
        simp [same, owner]
      · rfl
  · rw [← mem_messages_iff sound few, shape]
    exact Messages.mem_of_find?_eq_some found

end Describes

end Ledger

end Postroom.Mailbox
