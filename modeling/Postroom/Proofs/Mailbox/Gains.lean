import Postroom.Proofs.Mailbox.Ledger
import Postroom.MailRoom

namespace Postroom.Mailbox

/-!
# What users gain

A row of deposits gives users emails one after another. In a store whose
messages all have lower numbers than its counter, and whose counter does not
run over, every user then holds each email as many more times as it was
deposited for the user.
-/

/-- An email for a user. -/
structure Gain where
  user : String
  email : Email
  deriving Repr, DecidableEq

namespace Store

/-- Deposit emails one after another. -/
def depositEach
    (store : Store)
    (gains : List Gain) :
    Store :=
  gains.foldl
    (fun current gain => (current.deposit gain.user gain.email).2)
    store

@[simp] theorem depositEach_nil (store : Store) :
    store.depositEach [] = store :=
  rfl

@[simp] theorem depositEach_cons
    (store : Store)
    (gain : Gain)
    (gains : List Gain) :
    store.depositEach (gain :: gains) =
      (store.deposit gain.user gain.email).2.depositEach gains :=
  rfl

theorem depositEach_append
    (store : Store)
    (first second : List Gain) :
    store.depositEach (first ++ second) =
      (store.depositEach first).depositEach second :=
  List.foldl_append

/-- One email for several users is one gain for each of them. -/
theorem depositAll_eq_depositEach
    (store : Store)
    (users : List String)
    (email : Email) :
    MailRoom.depositAll store users email =
      store.depositEach (users.map (⟨·, email⟩)) := by
  simp [MailRoom.depositAll, depositEach, List.foldl_map]

/-- How many times a user holds an email. -/
def copies
    (store : Store)
    (user : String)
    (email : Email) :
    Nat :=
  ((store.held user).map Prod.snd).count email

/-- Every held message has a number below the next one. -/
def Ordered (store : Store) : Prop :=
  ∀ user, ∀ message ∈ store.held user, message.1 < store.nextId

/-- Any store that a ledger describes has its messages in order. -/
theorem ordered_of_describes
    {ledger : Ledger}
    {store : Store}
    (describes : ledger.Describes store)
    (sound : ledger.Sound)
    (few : ledger.issued.length < UInt64.size) :
    store.Ordered := by
  intro user message member
  rw [held, describes.mailbox, sound.getD_mailbox?] at member
  rw [describes.nextId]
  exact sound.lt_nextId few member

/-- The counter goes up by one unless it runs over. -/
theorem toNat_next
    {number : MessageId}
    (roomy : number.toNat + 1 < UInt64.size) :
    (number + 1).toNat = number.toNat + 1 := by
  simp only [UInt64.toNat_add, UInt64.reduceToNat]
  exact Nat.mod_eq_of_lt roomy

namespace Ordered

variable {store : Store} (ordered : store.Ordered)

include ordered

/-- A deposit goes to the end of one mailbox. -/
theorem held_deposit
    (user other : String)
    (email : Email) :
    (store.deposit user email).2.held other =
      if other = user then
        store.held user ++ [(store.nextId, email)]
      else
        store.held other := by
  have appended :
      (store.held user).insert store.nextId email =
        store.held user ++ [(store.nextId, email)] :=
    Messages.insert_eq_append (ordered user)
  by_cases same : other = user
  · simpa [held, same] using appended
  · simp [held, same]

/-- A deposit is one more copy, of one email for one user. -/
theorem copies_deposit
    (gain : Gain)
    (user : String)
    (email : Email) :
    (store.deposit gain.user gain.email).2.copies user email =
      store.copies user email + [gain].count ⟨user, email⟩ := by
  rcases gain with ⟨owner, mail⟩
  rw [copies, ordered.held_deposit]
  by_cases same : user = owner
  · subst same
    simp [copies, List.count_singleton]
  · have other : owner ≠ user :=
      fun equal => same equal.symm
    simp [copies, same, other]

/-- A deposit keeps the numbers in order unless the counter runs over. -/
theorem deposit
    (roomy : store.nextId.toNat + 1 < UInt64.size)
    (user : String)
    (email : Email) :
    (store.deposit user email).2.Ordered := by
  have next := toNat_next roomy
  have advances (number : MessageId) (below : number < store.nextId) :
      number < store.nextId + 1 := by
    rw [UInt64.lt_iff_toNat_lt] at below ⊢
    omega
  intro other message member
  rw [nextId_deposit]
  rw [ordered.held_deposit] at member
  split at member
  · rcases List.mem_append.1 member with before | last
    · exact advances _ (ordered _ _ before)
    · have same : message = (store.nextId, email) := by
        simpa using last
      rw [same, UInt64.lt_iff_toNat_lt, next]
      exact Nat.lt_succ_self _
  · exact advances _ (ordered _ _ member)

/-- Every user gains the emails that were deposited for the user. -/
theorem copies_depositEach
    {gains : List Gain}
    (roomy : store.nextId.toNat + gains.length < UInt64.size)
    (user : String)
    (email : Email) :
    (store.depositEach gains).copies user email =
      store.copies user email + gains.count ⟨user, email⟩ := by
  induction gains generalizing store with
  | nil =>
      rfl
  | cons gain rest inductionHypothesis =>
      rw [List.length_cons] at roomy
      have single : store.nextId.toNat + 1 < UInt64.size := by
        omega
      have next := toNat_next single
      have later := ordered.deposit single gain.user gain.email
      rw [depositEach_cons,
        inductionHypothesis later (by rw [nextId_deposit]; omega),
        ordered.copies_deposit, Nat.add_assoc, ← List.count_append,
        List.singleton_append]

end Ordered

end Store

end Postroom.Mailbox
