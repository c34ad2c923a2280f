import Mathlib.Data.List.Dedup
import Postroom.MailRoom
import Postroom.Proofs.Text.Utf8

namespace Postroom.MailRoom

/-!
# What a mail room accepts and delivers

A mailbox server accepts a recipient list exactly when it names somebody of
its domain and no stranger of it, and then every local part of its domain
among the recipients gets a copy. The domain and the users of a room never
change.
-/

/-- The local parts at a domain among some recipients, ascending, each once. -/
def addressees
    (domain : String)
    (recipients : List Address) :
    List String :=
  ascending ((inDomain domain recipients).map Address.localPart)

/-- The addressees are the local parts of the recipients at the domain. -/
theorem mem_addressees
    {domain user : String}
    {recipients : List Address} :
    user ∈ addressees domain recipients ↔
      ∃ recipient ∈ recipients,
        recipient.isIn domain = true ∧ recipient.localPart = user := by
  simp only [addressees, inDomain, mem_ascending, List.mem_map,
    List.mem_filter, and_assoc]

/-- The addressees ascend in the order of their bytes, so nobody occurs twice. -/
theorem pairwise_addressees
    (domain : String)
    (recipients : List Address) :
    (addressees domain recipients).Pairwise
      fun first second => Text.encode first < Text.encode second :=
  (pairwise_ascending _).imp Text.encode_lt_encode_iff.2

/-- Nobody is addressed twice. -/
theorem nodup_addressees
    (domain : String)
    (recipients : List Address) :
    (addressees domain recipients).Nodup :=
  nodup_ascending _

/-- Nobody is addressed exactly when no recipient is at the domain. -/
theorem addressees_eq_nil_iff
    {domain : String}
    {recipients : List Address} :
    addressees domain recipients = [] ↔
      inDomain domain recipients = [] := by
  constructor
  · intro nobody
    rw [List.eq_nil_iff_forall_not_mem]
    intro recipient member
    have addressed :
        recipient.localPart ∈ addressees domain recipients := by
      simp only [addressees, mem_ascending]
      exact List.mem_map_of_mem member
    simp [nobody] at addressed
  · intro nobody
    simp [addressees, nobody]

/-- What holds of all addressees holds of the recipients at the domain. -/
theorem forall_mem_addressees
    {domain : String}
    {recipients : List Address}
    {holds : String → Prop} :
    (∀ user ∈ addressees domain recipients, holds user) ↔
      ∀ recipient ∈ inDomain domain recipients, holds recipient.localPart := by
  simp only [addressees, mem_ascending, List.forall_mem_map]

/-- A mailbox server accepts lists with somebody and no stranger of its domain. -/
theorem accept_mailbox_eq_ok_iff
    {room : MailRoom}
    {domain : String}
    (intake : room.intake = .mailbox domain)
    {recipients : List Address}
    {count : Nat} :
    room.accept recipients = .ok count ↔
      addressees domain recipients ≠ [] ∧
        (∀ user ∈ addressees domain recipients,
          room.users.contains user = true) ∧
        count = (inDomain domain recipients).length := by
  have strangers :
      ((inDomain domain recipients).find?
          (!room.users.contains ·.localPart)) = none ↔
        ∀ user ∈ addressees domain recipients,
          room.users.contains user = true := by
    simp only [List.find?_eq_none, forall_mem_addressees, Bool.not_eq_true',
      Bool.not_eq_false]
  have nobody :
      (inDomain domain recipients).isEmpty = true ↔
        addressees domain recipients = [] := by
    rw [List.isEmpty_iff, addressees_eq_nil_iff]
  simp only [accept, intake]
  cases found :
      (inDomain domain recipients).find?
        (!room.users.contains ·.localPart) with
  | some stranger =>
      have unknown :
          ¬ ∀ user ∈ addressees domain recipients,
            room.users.contains user = true := by
        rw [← strangers, found]
        simp
      simp [unknown]
  | none =>
      have known := strangers.1 found
      by_cases empty : (inDomain domain recipients).isEmpty = true
      · simp [empty, nobody.1 empty]
      · have somebody : addressees domain recipients ≠ [] :=
          fun none => empty (nobody.2 none)
        simp only [empty, Bool.false_eq_true, ↓reduceIte,
          Except.ok.injEq, somebody, ne_eq, not_false_eq_true, true_and]
        exact ⟨fun same => ⟨known, same.symm⟩, fun both => both.2.symm⟩

/-- Who gets a copy is the local part of a recipient at the domain, and a user. -/
theorem mem_localUsers
    {domain user : String}
    {users : UserTable}
    {recipients : List Address} :
    user ∈ localUsers domain users recipients ↔
      ∃ recipient ∈ recipients,
        recipient.isIn domain = true ∧
          users.contains recipient.localPart = true ∧
          recipient.localPart = user := by
  simp only [localUsers, inDomain, mem_ascending, List.mem_map,
    List.mem_filter, and_assoc]

/-- When every addressee is a user, the addressees are who gets a copy. -/
theorem localUsers_eq_addressees
    {domain : String}
    {users : UserTable}
    {recipients : List Address}
    (known :
      ∀ user ∈ addressees domain recipients,
        users.contains user = true) :
    localUsers domain users recipients = addressees domain recipients := by
  have all :
      (inDomain domain recipients).filter (users.contains ·.localPart) =
        inDomain domain recipients := by
    exact List.filter_eq_self.2 (forall_mem_addressees.1 known)
  simp [localUsers, addressees, all]

/-- A mailbox server takes every email, in whatever state its store is. -/
theorem deliver_mailbox
    {room : MailRoom}
    {domain : String}
    (intake : room.intake = .mailbox domain)
    (email : Email) :
    room.deliver email =
      .ok
        { room with
          store :=
            depositAll room.store
              (localUsers domain room.users email.recipients) email } := by
  simp [deliver, intake]

section Queueing

variable
  {room : MailRoom}
  (intake : room.intake = .queue)

include intake

/-- A server that queues mail accepts every list. -/
theorem accept_queue (recipients : List Address) :
    room.accept recipients = .ok recipients.length := by
  simp [accept, intake]

/-- A server that queues mail takes every email, behind those it has. -/
theorem deliver_queue (email : Email) :
    room.deliver email = .ok { room with queue := room.queue ++ [email] } := by
  simp [deliver, intake]

end Queueing

/-- A delivery leaves the domain and the users of a room alone. -/
theorem intake_users_of_deliver
    {room later : MailRoom}
    {email : Email}
    (delivered : room.deliver email = .ok later) :
    later.intake = room.intake ∧ later.users = room.users := by
  unfold deliver at delivered
  split at delivered
  · cases delivered
    exact ⟨rfl, rfl⟩
  · cases delivered
    exact ⟨rfl, rfl⟩
  · cases delivered

/-- What is accepted depends on the domain and the users only. -/
theorem accept_congr
    {room other : MailRoom}
    (intake : room.intake = other.intake)
    (users : room.users = other.users)
    (recipients : List Address) :
    room.accept recipients = other.accept recipients := by
  simp [accept, intake, users]

end Postroom.MailRoom
