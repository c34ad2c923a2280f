import Postroom.Proofs.Mailbox.Ledger
import Postroom.Proofs.MailRoom

namespace Postroom.Mailbox

/-!
# Deeds

Two kinds of commands change a mailbox store: an email that is sent and a
message that is deleted. The ledger of a list of such deeds is computed from
the list alone. A list is lawful when each of its deeds was possible at its
time. The main statement says of lawful lists that every copy is either held
or was deleted by exactly one deed.
-/

/-- What a command did to the store. -/
inductive Deed where
  | sent (email : Email)
  | deleted (user : String) (identifier : MessageId)
  deriving Repr, DecidableEq

namespace Ledger

/--
Record a deed of a mailbox server.

An email makes one copy for each local part at the server's domain, ascending;
a deletion takes the copy away that it names.
-/
def record
    (domain : String)
    (ledger : Ledger) :
    Deed → Ledger
  | .sent email =>
      (MailRoom.addressees domain email.recipients).foldl
        (issue email) ledger
  | .deleted user identifier =>
      ledger.remove user identifier

/-- The ledger of some deeds. -/
def ofDeeds
    (domain : String)
    (deeds : List Deed) :
    Ledger :=
  deeds.foldl (record domain) empty

/-- A deed is possible when it reaches somebody, users only, or takes a held copy. -/
def Allows
    (domain : String)
    (users : UserTable)
    (ledger : Ledger) :
    Deed → Prop
  | .sent email =>
      MailRoom.addressees domain email.recipients ≠ [] ∧
        ∀ user ∈ MailRoom.addressees domain email.recipients,
          users.contains user = true
  | .deleted user identifier =>
      ∃ email, ⟨identifier.toNat, user, email⟩ ∈ ledger.held

@[simp] theorem ofDeeds_nil (domain : String) :
    ofDeeds domain [] = empty :=
  rfl

@[simp] theorem ofDeeds_concat
    (domain : String)
    (deeds : List Deed)
    (deed : Deed) :
    ofDeeds domain (deeds ++ [deed]) =
      (ofDeeds domain deeds).record domain deed := by
  simp [ofDeeds]

/-- The copies that one email makes for some users. -/
def copies
    (ledger : Ledger)
    (email : Email)
    (users : List String) :
    List Copy :=
  (users.zipIdx ledger.issued.length).map fun (user, number) =>
    ⟨number, user, email⟩

theorem foldl_issue
    (email : Email)
    (users : List String)
    (ledger : Ledger) :
    users.foldl (issue email) ledger =
      ⟨ledger.issued ++ ledger.copies email users,
        ledger.held ++ ledger.copies email users⟩ := by
  induction users generalizing ledger with
  | nil =>
      simp [copies]
  | cons user rest inductionHypothesis =>
      simp [inductionHypothesis, copies, List.zipIdx_cons]

/-- New copies belong to the given users and bear numbers not yet used. -/
theorem of_mem_copies
    {ledger : Ledger}
    {email : Email}
    {users : List String}
    {copy : Copy}
    (member : copy ∈ ledger.copies email users) :
    copy.user ∈ users ∧
      copy.email = email ∧
      ledger.issued.length ≤ copy.number := by
  simp only [copies, List.mem_map, Prod.exists] at member
  rcases member with ⟨user, number, paired, rfl⟩
  exact
    ⟨List.fst_mem_of_mem_zipIdx paired,
      rfl,
      List.le_snd_of_mem_zipIdx paired⟩

theorem Sound.foldl_issue
    {ledger : Ledger}
    (sound : ledger.Sound)
    (email : Email)
    (users : List String) :
    (users.foldl (Ledger.issue email) ledger).Sound := by
  induction users generalizing ledger with
  | nil =>
      exact sound
  | cons user rest inductionHypothesis =>
      exact inductionHypothesis (sound.issue email user)

/-- One copy for each of some users is what the ledger issues for them. -/
theorem Describes.depositAll
    {ledger : Ledger}
    {store : Store}
    (describes : ledger.Describes store)
    (sound : ledger.Sound)
    {email : Email}
    {users : List String}
    (few :
      (users.foldl (issue email) ledger).issued.length < UInt64.size) :
    (users.foldl (issue email) ledger).Describes
      (MailRoom.depositAll store users email) := by
  induction users generalizing ledger store with
  | nil =>
      exact describes
  | cons user rest inductionHypothesis =>
      have fewBefore : ledger.issued.length < UInt64.size := by
        simp only [Ledger.foldl_issue, List.length_append] at few
        omega
      exact inductionHypothesis
        (describes.deposit sound fewBefore user email)
        (sound.issue email user) few

theorem Sound.record
    {ledger : Ledger}
    (sound : ledger.Sound)
    (domain : String)
    (deed : Deed) :
    (ledger.record domain deed).Sound := by
  cases deed with
  | sent email =>
      exact sound.foldl_issue email _
  | deleted user identifier =>
      exact sound.remove user identifier

/-- Recording a deed only ever adds copies. -/
theorem issued_prefix_record
    (domain : String)
    (ledger : Ledger)
    (deed : Deed) :
    ledger.issued <+: (ledger.record domain deed).issued := by
  cases deed with
  | sent email =>
      simp [record, foldl_issue]
  | deleted user identifier =>
      exact List.prefix_rfl

theorem Sound.foldl_record
    {ledger : Ledger}
    (sound : ledger.Sound)
    (domain : String)
    (deeds : List Deed) :
    (deeds.foldl (Ledger.record domain) ledger).Sound := by
  induction deeds generalizing ledger with
  | nil =>
      exact sound
  | cons deed rest inductionHypothesis =>
      exact inductionHypothesis (sound.record domain deed)

theorem sound_ofDeeds
    (domain : String)
    (deeds : List Deed) :
    (ofDeeds domain deeds).Sound :=
  sound_empty.foldl_record domain deeds

theorem issued_prefix_foldl_record
    (domain : String)
    (ledger : Ledger)
    (deeds : List Deed) :
    ledger.issued <+: (deeds.foldl (record domain) ledger).issued := by
  induction deeds generalizing ledger with
  | nil =>
      exact List.prefix_rfl
  | cons deed rest inductionHypothesis =>
      exact
        (issued_prefix_record domain ledger deed).trans
          (inductionHypothesis (ledger.record domain deed))

/-- Copies stay in the ledger whatever is done later. -/
theorem issued_prefix_ofDeeds_append
    (domain : String)
    (earlier later : List Deed) :
    (ofDeeds domain earlier).issued <+:
      (ofDeeds domain (earlier ++ later)).issued := by
  rw [ofDeeds, ofDeeds, List.foldl_append]
  exact issued_prefix_foldl_record domain _ later

end Ledger

open Ledger

/-- Each deed was possible at its time. -/
inductive Lawful
    (domain : String)
    (users : UserTable) :
    List Deed → Prop where
  | nil :
      Lawful domain users []
  | concat
      {deeds : List Deed}
      {deed : Deed}
      (lawful : Lawful domain users deeds)
      (allowed : (ofDeeds domain deeds).Allows domain users deed) :
      Lawful domain users (deeds ++ [deed])

namespace Lawful

variable {domain : String} {users : UserTable} {deeds : List Deed}

/-- Every email that was sent reached somebody. -/
theorem addressees_ne_nil
    (lawful : Lawful domain users deeds)
    {email : Email}
    (member : Deed.sent email ∈ deeds) :
    MailRoom.addressees domain email.recipients ≠ [] := by
  induction lawful with
  | nil =>
      simp at member
  | concat lawful allowed inductionHypothesis =>
      rcases List.mem_append.1 member with earlier | last
      · exact inductionHypothesis earlier
      · obtain rfl := List.mem_singleton.1 last
        exact allowed.1

/-- Copies are made for users only. -/
theorem contains_user
    (lawful : Lawful domain users deeds)
    {copy : Copy}
    (member : copy ∈ (ofDeeds domain deeds).issued) :
    users.contains copy.user = true := by
  induction lawful with
  | nil =>
      simp [empty] at member
  | @concat deeds deed lawful allowed inductionHypothesis =>
      rw [ofDeeds_concat] at member
      cases deed with
      | sent email =>
          rw [record, foldl_issue] at member
          rcases List.mem_append.1 member with earlier | fresh
          · exact inductionHypothesis earlier
          · exact allowed.2 _ (of_mem_copies fresh).1
      | deleted user identifier =>
          exact inductionHypothesis member

/-- The deed that deletes a copy. -/
def deletion (copy : Copy) : Deed :=
  .deleted copy.user (UInt64.ofNat copy.number)

/-- Only copies that were made are deleted. -/
theorem exists_copy_of_deleted
    (lawful : Lawful domain users deeds)
    {user : String}
    {identifier : MessageId}
    (member : Deed.deleted user identifier ∈ deeds) :
    ∃ copy ∈ (ofDeeds domain deeds).issued,
      copy.user = user ∧ copy.number = identifier.toNat := by
  induction lawful with
  | nil =>
      simp at member
  | @concat deeds deed lawful allowed inductionHypothesis =>
      have kept :=
        (issued_prefix_ofDeeds_append domain deeds [deed]).subset
      rcases List.mem_append.1 member with earlier | last
      · obtain ⟨copy, issued, named⟩ := inductionHypothesis earlier
        exact ⟨copy, kept issued, named⟩
      · obtain rfl := List.mem_singleton.1 last
        rcases allowed with ⟨email, held⟩
        exact
          ⟨_, kept ((sound_ofDeeds domain deeds).held.subset held),
            rfl, rfl⟩

/-- Below the limit of the numbers, a deed deletes the copy that it names. -/
theorem deletion_eq_iff
    {copy : Copy}
    (few : copy.number < UInt64.size)
    {user : String}
    {identifier : MessageId} :
    deletion copy = .deleted user identifier ↔
      copy.user = user ∧ copy.number = identifier.toNat := by
  rw [deletion, Deed.deleted.injEq, ← UInt64.toNat_inj,
    UInt64.toNat_ofNat_of_lt' few]

/-- A number that was not used yet was not deleted either. -/
theorem count_deletion_of_unused
    (lawful : Lawful domain users deeds)
    {copy : Copy}
    (few : copy.number < UInt64.size)
    (unused : (ofDeeds domain deeds).issued.length ≤ copy.number) :
    deeds.count (deletion copy) = 0 := by
  rw [List.count_eq_zero]
  intro deleted
  obtain ⟨earlier, issued, _, sameNumber⟩ :=
    lawful.exists_copy_of_deleted deleted
  have below := (sound_ofDeeds domain deeds).number_lt issued
  rw [UInt64.toNat_ofNat_of_lt' few] at sameNumber
  omega

/-- A copy is held as long as no deed deletes it, and one deed at most does. -/
theorem held_or_deleted
    (lawful : Lawful domain users deeds)
    (few : (ofDeeds domain deeds).issued.length < UInt64.size)
    {copy : Copy}
    (member : copy ∈ (ofDeeds domain deeds).issued) :
    copy ∈ (ofDeeds domain deeds).held ∧
        deeds.count (deletion copy) = 0 ∨
      copy ∉ (ofDeeds domain deeds).held ∧
        deeds.count (deletion copy) = 1 := by
  induction lawful with
  | nil =>
      simp [empty] at member
  | @concat deeds deed lawful allowed inductionHypothesis =>
      have sound := sound_ofDeeds domain deeds
      have numberFew : copy.number < UInt64.size :=
        Nat.lt_trans ((sound_ofDeeds domain _).number_lt member) few
      have fewBefore :
          (ofDeeds domain deeds).issued.length < UInt64.size :=
        Nat.lt_of_le_of_lt
          (issued_prefix_ofDeeds_append domain deeds [deed]).length_le few
      rw [ofDeeds_concat] at member ⊢
      cases deed with
      | sent email =>
          have sameCount :
              (deeds ++ [Deed.sent email]).count (deletion copy) =
                deeds.count (deletion copy) := by
            simp [deletion]
          rw [sameCount]
          rw [record, foldl_issue] at member ⊢
          rcases List.mem_append.1 member with earlier | fresh
          · have notFresh :
                copy ∉ (ofDeeds domain deeds).copies email
                  (MailRoom.addressees domain email.recipients) := by
              intro fresh
              have unused := (of_mem_copies fresh).2.2
              have used := sound.number_lt earlier
              omega
            simpa [notFresh] using inductionHypothesis fewBefore earlier
          · exact Or.inl
              ⟨List.mem_append_right _ fresh,
                lawful.count_deletion_of_unused numberFew
                  (of_mem_copies fresh).2.2⟩
      | deleted user identifier =>
          rw [record, mem_held_remove, List.count_append,
            List.count_singleton]
          have before := inductionHypothesis fewBefore member
          by_cases named :
              copy.user = user ∧ copy.number = identifier.toNat
          · rcases allowed with ⟨email, held⟩
            have same :=
              sound.eq_of_number_eq member (sound.held.subset held) named.2
            have stillHeld : copy ∈ (ofDeeds domain deeds).held :=
              same ▸ held
            have never : deeds.count (deletion copy) = 0 := by
              rcases before with ⟨_, never⟩ | ⟨notHeld, _⟩
              · exact never
              · exact absurd stillHeld notHeld
            have deletes : deletion copy = .deleted user identifier :=
              (deletion_eq_iff numberFew).2 named
            rw [never, deletes]
            exact Or.inr ⟨fun kept => kept.2 named, by simp⟩
          · have other : deletion copy ≠ .deleted user identifier :=
              fun same => named ((deletion_eq_iff numberFew).1 same)
            simpa [named, Ne.symm other] using before

end Lawful

end Postroom.Mailbox
