import Mathlib.Data.List.Induction
import Postroom.Proofs.Mailbox.Ledger
import Postroom.Proofs.Mailbox.Retrieval

namespace Postroom.Mailbox

/-!
# The event log of a store

A store can be replaced by a list of events: who was given which email, and
whose message of which number was deleted. From that list alone every call is
answered as the store answers it. The n-th deposit, counted from zero, has the
number n whoever receives it, and a mailbox is the list of its owner's deposits
without those that were deleted.
-/

/-- A call of a store. -/
inductive Call where
  | deposit (user : String) (email : Email)
  | hasMailbox (user : String)
  | messageCount (user : String)
  | list (user : String)
  | get (user : String) (identifier : MessageId)
  | delete (user : String) (identifier : MessageId)
  deriving Repr, DecidableEq

/-- The result of a call. -/
inductive Answer where
  | identifier (value : MessageId)
  | decision (value : Bool)
  | count (value : Nat)
  | messages (result : Except StoreError Messages)
  | email (result : Except StoreError Email)

/-- Whether a call gives somebody a message. -/
def Call.isDeposit : Call → Bool
  | .deposit _ _ =>
      true
  | _ =>
      false

/-- Whether a result is an error. -/
def Answer.isFailure : Answer → Bool
  | .messages (.error _) =>
      true
  | .email (.error _) =>
      true
  | _ =>
      false

/-- A number is looked up in the list of messages. -/
theorem Messages.find?_eq_lookup
    (messages : Messages)
    (identifier : MessageId) :
    messages.find? identifier = messages.lookup identifier := by
  induction messages with
  | nil =>
      rfl
  | cons first rest inductionHypothesis =>
      rw [find?_cons, List.lookup_cons, inductionHypothesis]
      by_cases same : identifier = first.1
      · simp [same]
      · simp [same, beq_false_of_ne same]

namespace Store

/-- The result of a call. -/
def answer (store : Store) : Call → Answer
  | .deposit user email =>
      .identifier (store.deposit user email).1
  | .hasMailbox user =>
      .decision (store.hasMailbox user)
  | .messageCount user =>
      .count (store.messageCount user)
  | .list user =>
      .messages (store.list user)
  | .get user identifier =>
      .email (store.get user identifier)
  | .delete user identifier =>
      .email ((store.delete user identifier).map Prod.fst)

/-- The store behind a call. -/
def after (store : Store) : Call → Store
  | .deposit user email =>
      (store.deposit user email).2
  | .delete user identifier =>
      match store.delete user identifier with
      | .ok (_, later) =>
          later
      | .error _ =>
          store
  | _ =>
      store

/-- The store behind some calls. -/
def afterAll
    (store : Store)
    (calls : List Call) :
    Store :=
  calls.foldl after store

end Store

/-- A change of a store. -/
inductive Event where
  | deposited (user : String) (email : Email)
  | deleted (user : String) (identifier : MessageId)
  deriving Repr, DecidableEq

/-- The user and the email of a deposit. -/
def Event.deposit? : Event → Option (String × Email)
  | .deposited user email =>
      some (user, email)
  | .deleted _ _ =>
      none

/-- The events of a store, oldest first. -/
abbrev Log :=
  List Event

namespace Log

/-- Every deposit, oldest first. -/
def deposits (log : Log) : List (String × Email) :=
  log.filterMap Event.deposit?

/-- The users who were ever given a message. -/
def owners (log : Log) : List String :=
  log.deposits.map Prod.fst

/-- The copies that the deposits made, each numbered by its place among them. -/
def issued (log : Log) : List Copy :=
  log.deposits.zipIdx.map fun (deposit, number) =>
    ⟨number, deposit.1, deposit.2⟩

/-- Whether no event deletes a copy. -/
def keeps
    (log : Log)
    (copy : Copy) :
    Bool :=
  Event.deleted copy.user (UInt64.ofNat copy.number) ∉ log

/-- The messages of a user that were deposited and not deleted, oldest first. -/
def held
    (log : Log)
    (user : String) :
    Messages :=
  ((log.issued.filter log.keeps).filter (·.user == user)).map Copy.message

/-- One message of a user. -/
def find
    (log : Log)
    (user : String)
    (identifier : MessageId) :
    Except StoreError Email :=
  if user ∈ log.owners then
    match (log.held user).lookup identifier with
    | some email =>
        .ok email
    | none =>
        .error (.noSuchMail identifier)
  else
    .error .noMailbox

/-- The result of a call, told from the events before it. -/
def answer (log : Log) : Call → Answer
  | .deposit _ _ =>
      .identifier (UInt64.ofNat log.deposits.length)
  | .hasMailbox user =>
      .decision (user ∈ log.owners)
  | .messageCount user =>
      .count (log.held user).length
  | .list user =>
      .messages
        (if user ∈ log.owners then
          .ok (log.held user)
        else
          .error .noMailbox)
  | .get user identifier =>
      .email (log.find user identifier)
  | .delete user identifier =>
      .email (log.find user identifier)

/-- The log behind a call: a deposit and a successful deletion are events. -/
def after (log : Log) : Call → Log
  | .deposit user email =>
      log ++ [.deposited user email]
  | .delete user identifier =>
      match log.find user identifier with
      | .ok _ =>
          log ++ [.deleted user identifier]
      | .error _ =>
          log
  | _ =>
      log

/-- The events of some calls of a new store. -/
def ofCalls (calls : List Call) : Log :=
  calls.foldl after []

@[simp] theorem ofCalls_nil :
    ofCalls [] = [] :=
  rfl

@[simp] theorem ofCalls_concat
    (calls : List Call)
    (call : Call) :
    ofCalls (calls ++ [call]) = (ofCalls calls).after call := by
  simp [ofCalls]

/-- The copies that were made and those that were not deleted. -/
def ledger (log : Log) : Ledger :=
  ⟨log.issued, log.issued.filter log.keeps⟩

@[simp] theorem length_issued (log : Log) :
    log.issued.length = log.deposits.length := by
  simp [issued]

theorem map_user_issued (log : Log) :
    log.issued.map Copy.user = log.owners := by
  have users :
      log.issued.map Copy.user =
        (log.deposits.zipIdx.map Prod.fst).map Prod.fst := by
    rw [issued, List.map_map, List.map_map]
    rfl
  rw [users, List.zipIdx_map_fst, owners]

theorem sound_ledger (log : Log) : log.ledger.Sound where
  numbers := by
    have numbers :
        log.issued.map Copy.number = log.deposits.zipIdx.map Prod.snd := by
      rw [issued, List.map_map]
      rfl
    rw [ledger, numbers, List.zipIdx_map_snd, length_issued,
      List.range_eq_range']
  held :=
    List.filter_sublist

@[simp] theorem messages_ledger
    (log : Log)
    (user : String) :
    log.ledger.messages user = log.held user :=
  rfl

theorem mailbox?_ledger
    (log : Log)
    (user : String) :
    log.ledger.mailbox? user =
      if user ∈ log.owners then some (log.held user) else none := by
  rw [Ledger.mailbox?, messages_ledger, ledger, map_user_issued]

@[simp] theorem deposits_deposited
    (log : Log)
    (user : String)
    (email : Email) :
    deposits (log ++ [.deposited user email]) =
      log.deposits ++ [(user, email)] := by
  simp [deposits, Event.deposit?]

@[simp] theorem deposits_deleted
    (log : Log)
    (user : String)
    (identifier : MessageId) :
    deposits (log ++ [.deleted user identifier]) = log.deposits := by
  simp [deposits, Event.deposit?]

theorem issued_deposited
    (log : Log)
    (user : String)
    (email : Email) :
    issued (log ++ [.deposited user email]) =
      log.issued ++ [⟨log.deposits.length, user, email⟩] := by
  simp [issued, List.zipIdx_append]

/-- Only copies that were made are deleted. -/
def Lawful (log : Log) : Prop :=
  ∀ user identifier,
    Event.deleted user identifier ∈ log →
    identifier.toNat < log.deposits.length

/-- Each deposit is one event. -/
theorem length_deposits_after
    (log : Log)
    (call : Call) :
    (log.after call).deposits.length =
      log.deposits.length + if call.isDeposit then 1 else 0 := by
  cases call with
  | deposit user email =>
      simp [after, Call.isDeposit]
  | delete user identifier =>
      rw [after]
      split <;> simp [Call.isDeposit]
  | hasMailbox _ | messageCount _ | list _ | get _ _ =>
      rfl

theorem Lawful.deposited
    {log : Log}
    (lawful : log.Lawful)
    (user : String)
    (email : Email) :
    Lawful (log ++ [.deposited user email]) := by
  intro owner identifier deleted
  have earlier : Event.deleted owner identifier ∈ log := by
    simpa using deleted
  have below := lawful owner identifier earlier
  rw [deposits_deposited, List.length_append]
  omega

theorem Lawful.deleted
    {log : Log}
    (lawful : log.Lawful)
    (user : String)
    {identifier : MessageId}
    (made : identifier.toNat < log.deposits.length) :
    Lawful (log ++ [.deleted user identifier]) := by
  intro owner other deleted
  rw [deposits_deleted]
  rcases List.mem_append.1 deleted with earlier | last
  · exact lawful owner other earlier
  · obtain ⟨rfl, rfl⟩ := Event.deleted.inj (List.mem_singleton.1 last)
    exact made

theorem ledger_deposited
    {log : Log}
    (lawful : log.Lawful)
    (user : String)
    (email : Email)
    (few : log.deposits.length < UInt64.size) :
    ledger (log ++ [.deposited user email]) =
      log.ledger.issue email user := by
  have same :
      keeps (log ++ [.deposited user email]) = log.keeps := by
    funext copy
    simp [keeps]
  have fresh : log.keeps ⟨log.deposits.length, user, email⟩ = true := by
    rw [keeps, decide_eq_true_eq]
    intro deleted
    have below := lawful _ _ deleted
    rw [UInt64.toNat_ofNat_of_lt' few] at below
    exact Nat.lt_irrefl _ below
  simp [ledger, Ledger.issue, issued_deposited, same, fresh]

theorem ledger_deleted
    {log : Log}
    (few : log.deposits.length < UInt64.size)
    (user : String)
    (identifier : MessageId) :
    ledger (log ++ [.deleted user identifier]) =
      log.ledger.remove user identifier := by
  have issued : issued (log ++ [.deleted user identifier]) = log.issued := by
    simp [issued]
  rw [ledger, Ledger.remove, ledger, issued, List.filter_filter]
  congr 1
  apply List.filter_congr
  intro copy member
  have below : copy.number < UInt64.size :=
    Nat.lt_trans (log.sound_ledger.number_lt member)
      ((length_issued log).symm ▸ few)
  have named :
      Event.deleted copy.user (UInt64.ofNat copy.number) =
          .deleted user identifier ↔
        copy.user = user ∧ copy.number = identifier.toNat := by
    rw [Event.deleted.injEq, ← UInt64.toNat_inj,
      UInt64.toNat_ofNat_of_lt' below]
  rw [Bool.eq_iff_iff]
  simp only [keeps, decide_eq_true_eq, List.mem_append,
    List.mem_singleton, named, not_or, not_and_or, Bool.and_eq_true,
    Bool.not_eq_true', Bool.and_eq_false_iff, beq_eq_false_iff_ne]
  exact and_comm

/-- A message is held exactly when it was deposited and not deleted. -/
theorem mem_held_iff
    {log : Log}
    (few : log.deposits.length < UInt64.size)
    {user : String}
    {identifier : MessageId}
    {email : Email} :
    (identifier, email) ∈ log.held user ↔
      log.deposits[identifier.toNat]? = some (user, email) ∧
        Event.deleted user identifier ∉ log := by
  have issued :
      ⟨identifier.toNat, user, email⟩ ∈ log.issued ↔
        log.deposits[identifier.toNat]? = some (user, email) := by
    rw [← List.mk_mem_zipIdx_iff_getElem?]
    simp only [Log.issued, List.mem_map, Prod.exists, Copy.mk.injEq]
    constructor
    · rintro ⟨_, _, _, member, rfl, rfl, rfl⟩
      exact member
    · intro member
      exact ⟨_, _, _, member, rfl, rfl, rfl⟩
  rw [← messages_ledger, Ledger.mem_messages_iff log.sound_ledger
    ((length_issued log).symm ▸ few), ledger, List.mem_filter, issued,
    keeps, decide_eq_true_eq, UInt64.ofNat_toNat]

/-- The messages of a user are strictly ascending. -/
theorem pairwise_held
    {log : Log}
    (few : log.deposits.length < UInt64.size)
    (user : String) :
    (log.held user).Pairwise (·.1 < ·.1) := by
  have ascending : (log.issued.map Copy.number).Pairwise (· < ·) :=
    log.sound_ledger.numbers ▸ List.pairwise_lt_range
  have below :
      ∀ copy ∈ log.issued, copy.number < UInt64.size := by
    intro copy member
    exact
      Nat.lt_trans (log.sound_ledger.number_lt member)
        ((length_issued log).symm ▸ few)
  have messages :
      (log.issued.map Copy.message).Pairwise (·.1 < ·.1) := by
    rw [List.pairwise_map] at ascending ⊢
    refine ascending.imp_of_mem ?_
    intro first second inFirst inSecond less
    rw [UInt64.lt_iff_toNat_lt, Copy.message, Copy.message,
      UInt64.toNat_ofNat_of_lt' (below first inFirst),
      UInt64.toNat_ofNat_of_lt' (below second inSecond)]
    exact less
  exact
    messages.sublist
      ((List.filter_sublist.trans List.filter_sublist).map Copy.message)

/-- A message is found exactly when it is held. -/
theorem find_eq_ok_iff
    {log : Log}
    (few : log.deposits.length < UInt64.size)
    {user : String}
    {identifier : MessageId}
    {email : Email} :
    log.find user identifier = .ok email ↔
      (identifier, email) ∈ log.held user := by
  have lookup :
      (log.held user).lookup identifier = some email ↔
        (identifier, email) ∈ log.held user := by
    rw [← Messages.find?_eq_lookup]
    refine ⟨Messages.mem_of_find?_eq_some, fun member => ?_⟩
    cases found : Messages.find? (log.held user) identifier with
    | none =>
        rw [Messages.find?_eq_lookup, List.lookup_eq_none_iff] at found
        simpa using found _ member
    | some other =>
        -- One number is the place of one deposit.
        have deposited := ((mem_held_iff few).1 member).1
        rw [((mem_held_iff few).1
          (Messages.mem_of_find?_eq_some found)).1] at deposited
        cases deposited
        rfl
  by_cases owner : user ∈ log.owners
  · rw [find, if_pos owner, ← lookup]
    cases (log.held user).lookup identifier <;> simp
  · have none : (identifier, email) ∉ log.held user := by
      intro member
      have deposited :=
        List.mem_of_getElem? ((mem_held_iff few).1 member).1
      exact owner (List.mem_map_of_mem deposited)
    rw [find, if_neg owner]
    simpa using none

/-- A successful deletion takes one message of the user away and nothing else. -/
theorem held_after_delete
    {log : Log}
    (few : log.deposits.length < UInt64.size)
    {user : String}
    {identifier : MessageId}
    {email : Email}
    (found : log.find user identifier = .ok email)
    (other : String) :
    (log.after (.delete user identifier)).held other =
      if other = user then
        (log.held user).filter (·.1 != identifier)
      else
        log.held other := by
  have removed :
      log.after (.delete user identifier) =
        log ++ [.deleted user identifier] := by
    rw [after, found]
  rw [removed, ← messages_ledger, ledger_deleted few,
    Ledger.messages_remove log.sound_ledger
      ((length_issued log).symm ▸ few)]
  rfl

end Log

namespace Store

/-- A call that fails changes nothing. -/
theorem after_of_isFailure
    {store : Store}
    {call : Call}
    (fails : (store.answer call).isFailure = true) :
    store.after call = store := by
  cases call with
  | delete user identifier =>
      rw [after]
      rw [answer] at fails
      cases removed : store.delete user identifier with
      | error reason =>
          rfl
      | ok removal =>
          rw [removed] at fails
          cases fails
  | deposit _ _ =>
      cases fails
  | hasMailbox _ | messageCount _ | list _ | get _ _ =>
      rfl

/-- No call takes a mailbox away. -/
theorem hasMailbox_after
    {store : Store}
    {user : String}
    (has : store.hasMailbox user = true)
    (call : Call) :
    (store.after call).hasMailbox user = true := by
  cases call with
  | deposit owner email =>
      rw [after, hasMailbox, mailbox?_deposit]
      split
      · rfl
      · exact has
  | delete owner identifier =>
      rw [after]
      cases removed : store.delete owner identifier with
      | error reason =>
          exact has
      | ok removal =>
          obtain ⟨email, later⟩ := removal
          obtain ⟨messages, _, _, rfl⟩ := delete_eq_ok_iff.1 removed
          simp only [hasMailbox, mailbox?_setMailbox]
          split
          · rfl
          · exact has
  | hasMailbox _ | messageCount _ | list _ | get _ _ =>
      exact has

theorem hasMailbox_afterAll
    {store : Store}
    {user : String}
    (has : store.hasMailbox user = true)
    (calls : List Call) :
    (store.afterAll calls).hasMailbox user = true := by
  induction calls generalizing store with
  | nil =>
      exact has
  | cons call rest inductionHypothesis =>
      exact inductionHypothesis (hasMailbox_after has call)

end Store

/-- A log from which a store can be told. -/
structure Tracks
    (log : Log)
    (store : Store) : Prop where
  lawful :
    log.Lawful
  describes :
    log.ledger.Describes store

theorem tracks_empty : Tracks [] .empty where
  lawful _ _ deleted := by
    cases deleted
  describes :=
    Ledger.describes_empty

namespace Tracks

variable
  {log : Log}
  {store : Store}
  (tracks : Tracks log store)

include tracks

/-- The mailbox of a user, as the log tells it. -/
theorem mailbox?_eq (user : String) :
    store.mailbox? user =
      if user ∈ log.owners then some (log.held user) else none := by
  rw [tracks.describes.mailbox, Log.mailbox?_ledger]

theorem get_eq
    (user : String)
    (identifier : MessageId) :
    store.get user identifier = log.find user identifier := by
  rw [Store.get, tracks.mailbox?_eq, Log.find]
  by_cases owner : user ∈ log.owners
  · simp only [owner, ↓reduceIte, Messages.find?_eq_lookup]
    cases (log.held user).lookup identifier <;> rfl
  · simp only [owner, ↓reduceIte]

theorem fst_delete_eq
    (user : String)
    (identifier : MessageId) :
    (store.delete user identifier).map Prod.fst =
      log.find user identifier := by
  rw [← tracks.get_eq, Store.delete]
  cases store.get user identifier <;> rfl

/-- Every call is answered from the log. -/
theorem answer_eq (call : Call) :
    store.answer call = log.answer call := by
  cases call with
  | deposit user email =>
      rw [Store.answer, Store.fst_deposit, tracks.describes.nextId,
        Log.answer]
      exact congrArg _ (congrArg _ log.length_issued)
  | hasMailbox user =>
      rw [Store.answer, Store.hasMailbox, tracks.mailbox?_eq, Log.answer]
      by_cases owner : user ∈ log.owners <;> simp [owner]
  | messageCount user =>
      have held := log.sound_ledger.getD_mailbox? user
      rw [← tracks.describes.mailbox, Log.messages_ledger] at held
      rw [Store.answer, Store.messageCount, held, Log.answer]
  | list user =>
      rw [Store.answer, Store.list, tracks.mailbox?_eq, Log.answer]
      by_cases owner : user ∈ log.owners <;> simp [owner]
  | get user identifier =>
      rw [Store.answer, tracks.get_eq, Log.answer]
  | delete user identifier =>
      rw [Store.answer, tracks.fst_delete_eq, Log.answer]

/-- Behind a call, the log behind it tells the store behind it. -/
theorem after
    (few : log.deposits.length < UInt64.size)
    (call : Call) :
    Tracks (log.after call) (store.after call) := by
  have fewIssued : log.ledger.issued.length < UInt64.size :=
    (Log.length_issued log).symm ▸ few
  cases call with
  | hasMailbox _ | messageCount _ | list _ | get _ _ =>
      exact tracks
  | deposit user email =>
      constructor
      · exact tracks.lawful.deposited user email
      · rw [Log.after, Log.ledger_deposited tracks.lawful user email few]
        exact
          tracks.describes.deposit log.sound_ledger fewIssued user email
  | delete user identifier =>
      have answered := tracks.fst_delete_eq user identifier
      rw [Log.after, ← answered, Store.after]
      cases removed : store.delete user identifier with
      | error reason =>
          exact tracks
      | ok removal =>
          obtain ⟨email, later⟩ := removal
          obtain ⟨describes, held⟩ :=
            tracks.describes.delete log.sound_ledger fewIssued removed
          have numbered :=
            log.sound_ledger.number_lt (log.sound_ledger.held.subset held)
          constructor
          · refine tracks.lawful.deleted user ?_
            exact (Log.length_issued log) ▸ numbered
          · change
              (Log.ledger (log ++ [.deleted user identifier])).Describes
                later
            rw [Log.ledger_deleted few]
            exact describes

end Tracks

/-- A new store is tracked by the events of its calls. -/
theorem tracks_ofCalls
    (calls : List Call)
    (few : calls.countP Call.isDeposit < UInt64.size) :
    Tracks (Log.ofCalls calls) (Store.empty.afterAll calls) ∧
      (Log.ofCalls calls).deposits.length =
        calls.countP Call.isDeposit := by
  induction calls using List.reverseRecOn with
  | nil =>
      exact ⟨tracks_empty, rfl⟩
  | append_singleton calls call inductionHypothesis =>
      rw [List.countP_append] at few
      obtain ⟨tracks, counted⟩ := inductionHypothesis (by omega)
      rw [Log.ofCalls_concat, Store.afterAll, List.foldl_concat]
      constructor
      · exact tracks.after (by omega) call
      · rw [Log.length_deposits_after, counted, List.countP_append,
          List.countP_singleton]

/--
Every call of a store is answered from the events before it.

A deposit is numbered by the deposits before it. The messages of a user are
those that were deposited for the user and not deleted, by ascending number,
and a message is found exactly when it is among them. A successful deletion
takes that message away, a failing call changes nothing, and a mailbox stays.
-/
theorem answers_from_event_log
    (calls : List Call)
    (few : calls.countP Call.isDeposit < UInt64.size) :
    let store := Store.empty.afterAll calls
    let log := Log.ofCalls calls
    (∀ call, store.answer call = log.answer call) ∧
      log.deposits.length = calls.countP Call.isDeposit ∧
      (∀ user, (log.held user).Pairwise (·.1 < ·.1)) ∧
      (∀ user identifier email,
        (identifier, email) ∈ log.held user ↔
          log.deposits[identifier.toNat]? = some (user, email) ∧
            Event.deleted user identifier ∉ log) ∧
      (∀ user identifier email,
        log.find user identifier = .ok email ↔
          (identifier, email) ∈ log.held user) ∧
      (∀ user identifier email,
        log.find user identifier = .ok email →
        ∀ other,
          (log.after (.delete user identifier)).held other =
            if other = user then
              (log.held user).filter (·.1 != identifier)
            else
              log.held other) ∧
      (∀ call,
        (store.answer call).isFailure = true →
        store.after call = store) ∧
      ∀ user ∈ log.owners, ∀ later,
        (store.afterAll later).hasMailbox user = true := by
  intro store log
  obtain ⟨tracks, counted⟩ := tracks_ofCalls calls few
  have fewDeposits : log.deposits.length < UInt64.size :=
    counted ▸ few
  refine
    ⟨tracks.answer_eq, counted, Log.pairwise_held fewDeposits,
      fun _ _ _ => Log.mem_held_iff fewDeposits,
      fun _ _ _ => Log.find_eq_ok_iff fewDeposits,
      fun _ _ _ => Log.held_after_delete fewDeposits,
      fun _ => Store.after_of_isFailure, ?_⟩
  intro user owner later
  refine Store.hasMailbox_afterAll ?_ later
  have answered := tracks.answer_eq (.hasMailbox user)
  exact (Answer.decision.inj answered).trans (decide_eq_true owner)

/-- A number that is deleted is not given again, and is no number of anybody else. -/
theorem answers_from_event_log_of_three_deposits :
    let email : Email := ⟨[⟨"ann", "home.org"⟩], "s", "t", "d"⟩
    let calls : List Call :=
      [.deposit "ann" email, .deposit "bob" email, .delete "ann" 1,
        .delete "bob" 1, .deposit "ann" email, .get "bob" 2]
    let store := Store.empty.afterAll calls
    calls.countP Call.isDeposit < UInt64.size ∧
      store.list "ann" = .ok [(0, email), (2, email)] ∧
      store.list "bob" = .ok [] ∧
      store.list "eve" = .error .noMailbox ∧
      store.get "bob" 2 = .error (.noSuchMail 2) := by
  intro email calls store
  have few : calls.countP Call.isDeposit < UInt64.size := by
    decide
  have answered := (answers_from_event_log calls few).1
  have listed (user : String) := Answer.messages.inj (answered (.list user))
  have found := Answer.email.inj (answered (.get "bob" 2))
  let log : Log :=
    [.deposited "ann" email, .deposited "bob" email, .deleted "bob" 1,
      .deposited "ann" email]
  have logged : Log.ofCalls calls = log := by
    decide
  rw [logged] at listed found
  have owners : log.owners = ["ann", "bob", "ann"] := by
    decide
  have held :
      log.held "ann" = [(0, email), (2, email)] ∧ log.held "bob" = [] := by
    decide
  rw [Log.find, held.2] at found
  rw [owners] at listed found
  refine
    ⟨few, (listed "ann").trans ?_, (listed "bob").trans ?_,
      (listed "eve").trans ?_, found⟩
  · simp [held.1]
  · simp [held.2]
  · simp

end Postroom.Mailbox
