import Postroom.Proofs.House.Deeds

namespace Postroom

/-!
# Mail is kept exactly once

The store of a mailbox server, after any interleaving of the lines of its
sessions, is the one that the ledger of their deeds describes. Hence no copy
is ever lost, doubled or put into another mailbox.
-/

open Mailbox (Copy Deed Ledger Lawful MessageId)

namespace Mailbox

/-- The emails that a user holds under a number. -/
def Store.heldUnder
    (store : Store)
    (user : String)
    (identifier : MessageId) :
    List Email :=
  ((store.held user).filter (·.1 == identifier)).map Prod.snd

namespace Ledger

/-- Of a list without repetition, one value is kept or none. -/
theorem filter_beq_of_nodup
    [BEq α]
    [LawfulBEq α]
    [DecidableEq α]
    {values : List α}
    (distinct : values.Nodup)
    (value : α) :
    values.filter (· == value) = if value ∈ values then [value] else [] := by
  rw [List.filter_beq]
  split
  · rename_i member
    rw [distinct.count, if_pos member]
    rfl
  · rename_i absent
    rw [List.count_eq_zero_of_not_mem absent]
    rfl

/-- The numbers of a described store lead to the copies of the ledger. -/
theorem Describes.heldUnder_eq
    {ledger : Ledger}
    {store : Store}
    (describes : ledger.Describes store)
    (sound : ledger.Sound)
    (few : ledger.issued.length < UInt64.size)
    {copy : Copy}
    (issued : copy ∈ ledger.issued)
    (user : String) :
    store.heldUnder user (UInt64.ofNat copy.number) =
      if copy ∈ ledger.held ∧ user = copy.user then
        [copy.email]
      else
        [] := by
  have distinct : ledger.held.Nodup := by
    refine sound.held.nodup (List.Nodup.of_map Copy.number ?_)
    rw [sound.numbers]
    exact List.nodup_range
  have named :
      ∀ other ∈ ledger.held,
        (UInt64.ofNat other.number == UInt64.ofNat copy.number) =
          (other == copy) := by
    intro other member
    have otherIssued := sound.held.subset member
    rw [Bool.eq_iff_iff, beq_iff_eq, beq_iff_eq, ← UInt64.toNat_inj,
      UInt64.toNat_ofNat_of_lt'
        (Nat.lt_trans (sound.number_lt otherIssued) few),
      UInt64.toNat_ofNat_of_lt'
        (Nat.lt_trans (sound.number_lt issued) few)]
    exact
      ⟨sound.eq_of_number_eq otherIssued issued,
        congrArg Copy.number⟩
  have filtered :
      ledger.held.filter
          (fun other =>
            UInt64.ofNat other.number == UInt64.ofNat copy.number) =
        if copy ∈ ledger.held then [copy] else [] := by
    rw [List.filter_congr named, filter_beq_of_nodup distinct]
  rw [Store.heldUnder, Store.held, describes.mailbox, sound.getD_mailbox?, messages,
    List.filter_map, List.map_map, List.filter_comm]
  simp only [Function.comp_def, Copy.message, filtered]
  by_cases held : copy ∈ ledger.held
  · by_cases owner : user = copy.user
    · simp [held, owner]
    · simp [held, owner, Ne.symm owner]
  · simp [held]

/-- Who has a mailbox was given a copy. -/
theorem Describes.exists_copy_of_hasMailbox
    {ledger : Ledger}
    {store : Store}
    (describes : ledger.Describes store)
    {user : String}
    (owns : store.hasMailbox user = true) :
    ∃ copy ∈ ledger.issued, copy.user = user := by
  rw [Store.hasMailbox, describes.mailbox, mailbox?] at owns
  split at owns
  · rename_i given
    exact List.mem_map.1 given
  · cases owns

end Ledger

end Mailbox

namespace House

open MailRoom (addressees)

/--
After any interleaving of the lines of submitting clients and visiting users,
the store is the one that their deeds make: every email that was sent was
copied once for each addressee, in the order of the bytes of their names and
at least for one, under the numbers from zero on, and every removal took one
copy of the user who asked for it. So every copy is held by its user alone, or
was deleted by exactly one deed.
-/
theorem mail_kept_exactly_once
    (domain : String)
    (users : UserTable)
    (queue : List Email)
    (events : List Event)
    (areLines : ∀ event ∈ events, event.isLine = true)
    (few :
      (Ledger.ofDeeds domain
        ((opened ⟨.mailbox domain, users, .empty, queue⟩).deeds
          events)).issued.length < UInt64.size) :
    let start := opened ⟨.mailbox domain, users, .empty, queue⟩
    let deeds := start.deeds events
    let ledger := Ledger.ofDeeds domain deeds
    let store := (start.afterAll events).room.store
    ledger.Describes store ∧
      (∀ email, .sent email ∈ deeds →
        addressees domain email.recipients ≠ [] ∧
          (addressees domain email.recipients).Pairwise
            fun first second => Text.encode first < Text.encode second) ∧
      ledger.issued.map Copy.number = List.range ledger.issued.length ∧
      (∀ user, store.hasMailbox user = true →
        users.contains user = true) ∧
      (∀ user identifier, .deleted user identifier ∈ deeds →
        ∃ copy ∈ ledger.issued,
          copy.user = user ∧ copy.number = identifier.toNat) ∧
      ∀ copy ∈ ledger.issued,
        (deeds.count (.deleted copy.user (.ofNat copy.number)) = 0 ∧
            ∀ user, store.heldUnder user (.ofNat copy.number) =
              if user = copy.user then [copy.email] else []) ∨
          deeds.count (.deleted copy.user (.ofNat copy.number)) = 1 ∧
            ∀ user, store.heldUnder user (.ofNat copy.number) = [] := by
  intro start deeds ledger store
  have standing :=
    (Standing.opened domain users queue).afterAll areLines few
  rw [List.nil_append] at standing
  have sound : ledger.Sound :=
    Ledger.sound_ofDeeds domain deeds
  refine
    ⟨standing.describes, ?_, sound.numbers, ?_,
      fun user identifier => standing.lawful.exists_copy_of_deleted, ?_⟩
  · intro email sent
    exact
      ⟨standing.lawful.addressees_ne_nil sent,
        MailRoom.pairwise_addressees domain email.recipients⟩
  · intro user owns
    obtain ⟨copy, issued, rfl⟩ :=
      standing.describes.exists_copy_of_hasMailbox owns
    exact standing.lawful.contains_user issued
  · intro copy issued
    have held := standing.describes.heldUnder_eq sound few issued
    rcases standing.lawful.held_or_deleted few issued with
      ⟨isHeld, never⟩ | ⟨notHeld, once⟩
    · exact Or.inl
        ⟨never, fun user => (held user).trans (by simp [isHeld])⟩
    · exact Or.inr
        ⟨once, fun user => (held user).trans (by simp [notHeld])⟩

/--
Two clients and a user cross: one email names two users in two spellings, the
first copy is deleted, and the other client gives up half way.
-/
def crossedLines : List Event := [
  .submission 0 "begin",
  .submission 1 "begin",
  .submission 0 "to b@d,a@D,a@d",
  .submission 1 "to b@d",
  .submission 0 "from s",
  .submission 0 "data t",
  .submission 0 "send",
  .access 0 "login a x",
  .access 0 "delete 0",
  .submission 1 "send"]

theorem mail_kept_exactly_once_of_crossed_lines :
    let start :=
      opened ⟨.mailbox "d", .ofList [("a", "x"), ("b", "y")], .empty, []⟩
    let deeds := start.deeds crossedLines
    let ledger := Ledger.ofDeeds "d" deeds
    (∀ event ∈ crossedLines, event.isLine = true) ∧
      ledger.issued.length < UInt64.size ∧
      ledger.issued.map Copy.number = [0, 1] ∧
      deeds.count (.deleted "a" 0) = 1 ∧
      ledger.Describes (start.afterAll crossedLines).room.store :=
  ⟨by decide,
    by decide +kernel,
    by decide +kernel,
    by decide +kernel,
    (mail_kept_exactly_once "d" (.ofList [("a", "x"), ("b", "y")]) []
      crossedLines (by decide) (by decide +kernel)).1⟩

end House

end Postroom
