import Postroom.Proofs.Mailbox.Gains
import Postroom.Proofs.Relay.Attempts
import Postroom.Proofs.Submission.Agreement

namespace Postroom

/-!
# Attempts at mailbox servers

When every authority is that of at most one mailbox server, an attempt arrives
exactly where a server knows all recipients at its domain, and then each of
them gains one copy. A row of attempts therefore leaves every server with what
its users gained from the attempts, and nothing else.
-/

/-- A mailbox server that can be reached at an authority. -/
structure MailboxServer where
  authority : Authority
  domain : String
  users : UserTable
  store : Mailbox.Store

namespace MailboxServer

/-- What the sessions of the server share. -/
def room (server : MailboxServer) : MailRoom :=
  ⟨.mailbox server.domain, server.users, server.store, []⟩

/-- Some recipient is at the server's domain. -/
def Addressed
    (server : MailboxServer)
    (recipients : List Address) : Prop :=
  ∃ recipient ∈ recipients, recipient.isIn server.domain = true

/-- Every recipient at the server's domain is one of its users. -/
def Knows
    (server : MailboxServer)
    (recipients : List Address) : Prop :=
  ∀ recipient ∈ recipients,
    recipient.isIn server.domain = true →
    server.users.contains recipient.localPart = true

instance
    (server : MailboxServer)
    (recipients : List Address) :
    Decidable (server.Addressed recipients) :=
  inferInstanceAs (Decidable (∃ recipient ∈ recipients, _))

instance
    (server : MailboxServer)
    (recipients : List Address) :
    Decidable (server.Knows recipients) :=
  inferInstanceAs (Decidable (∀ recipient ∈ recipients, _))

/-- What the users of the server gain from one attempt. -/
def gainsOf
    (server : MailboxServer)
    (attempt : Relay.Attempt) :
    List Mailbox.Gain :=
  if attempt.authority = server.authority ∧
      attempt.carrier?.isSome = true then
    (MailRoom.addressees server.domain attempt.email.recipients).map
      (⟨·, attempt.email⟩)
  else
    []

/-- What the users of the server gain from a row of attempts. -/
def gains
    (server : MailboxServer)
    (attempts : List Relay.Attempt) :
    List Mailbox.Gain :=
  attempts.flatMap server.gainsOf

/-- The server behind a row of attempts. -/
def after
    (server : MailboxServer)
    (attempts : List Relay.Attempt) :
    MailboxServer :=
  { server with store := server.store.depositEach (server.gains attempts) }

@[simp] theorem after_nil (server : MailboxServer) :
    server.after [] = server :=
  rfl

/-- Gains come from attempts at the server that a connection carried. -/
theorem mem_gains
    {server : MailboxServer}
    {attempts : List Relay.Attempt}
    {gain : Mailbox.Gain} :
    gain ∈ server.gains attempts ↔
      ∃ attempt ∈ attempts,
        attempt.authority = server.authority ∧
          attempt.carrier?.isSome = true ∧
          gain.email = attempt.email ∧
          gain.user ∈
            MailRoom.addressees server.domain
              attempt.email.recipients := by
  simp only [gains, gainsOf, List.mem_flatMap]
  constructor
  · rintro ⟨attempt, member, isGain⟩
    split at isGain
    · rename_i hit
      obtain ⟨user, addressed, rfl⟩ := List.mem_map.1 isGain
      exact ⟨attempt, member, hit.1, hit.2, rfl, addressed⟩
    · cases isGain
  · rintro ⟨attempt, member, isThere, carried, same, addressed⟩
    refine ⟨attempt, member, ?_⟩
    rw [if_pos ⟨isThere, carried⟩]
    exact List.mem_map.2 ⟨gain.user, addressed, by rw [← same]⟩

/-- Nobody gains from an attempt that fails or goes elsewhere. -/
theorem after_of_missed
    {server : MailboxServer}
    {attempt : Relay.Attempt}
    (missed :
      ¬ (attempt.authority = server.authority ∧
        attempt.carrier?.isSome = true)) :
    server.after [attempt] = server := by
  simp [after, gains, gainsOf, missed]

/-- Attempts add up. -/
theorem after_append
    (server : MailboxServer)
    (first second : List Relay.Attempt) :
    (server.after first).after second = server.after (first ++ second) := by
  have same :
      (server.after first).gains second = server.gains second :=
    rfl
  have together :
      server.gains (first ++ second) =
        server.gains first ++ server.gains second :=
    List.flatMap_append
  simp only [after, together, Mailbox.Store.depositEach_append]
  rfl

section Taking

variable {server : MailboxServer} {recipients : List Address}

theorem addressees_ne_nil_iff :
    MailRoom.addressees server.domain recipients ≠ [] ↔
      server.Addressed recipients := by
  rw [ne_eq, MailRoom.addressees_eq_nil_iff, MailRoom.inDomain,
    List.filter_eq_nil_iff]
  simp [Addressed]

theorem knows_iff :
    server.Knows recipients ↔
      ∀ user ∈ MailRoom.addressees server.domain recipients,
        server.users.contains user = true := by
  simp only [MailRoom.mem_addressees, Knows]
  constructor
  · rintro known user ⟨recipient, listed, inside, rfl⟩
    exact known recipient listed inside
  · intro known recipient listed inside
    exact known _ ⟨recipient, listed, inside, rfl⟩

/-- A server that knows the recipients gives each of them one copy. -/
theorem deliver_room
    {email : Email}
    (knows : server.Knows email.recipients) :
    server.room.deliver email =
      .ok
        { server.room with
          store :=
            server.store.depositEach
              ((MailRoom.addressees server.domain email.recipients).map
                (⟨·, email⟩)) } := by
  have users :
      MailRoom.localUsers server.domain server.users email.recipients =
        MailRoom.addressees server.domain email.recipients :=
    MailRoom.localUsers_eq_addressees (knows_iff.1 knows)
  rw [← Mailbox.Store.depositAll_eq_depositEach, ← users]
  exact MailRoom.deliver_mailbox rfl email

/-- A server takes an email that names some of its users and no stranger. -/
theorem taken_iff
    {email : Email}
    {later : MailRoom} :
    Submission.Taken server.room email later ↔
      Submission.Carried email ∧ server.Addressed email.recipients ∧
        server.Knows email.recipients ∧
        server.room.deliver email = .ok later := by
  have intake : server.room.intake = .mailbox server.domain :=
    rfl
  constructor
  · rintro ⟨carried, ⟨count, accepted⟩, delivered⟩
    obtain ⟨somebody, known, _⟩ :=
      (MailRoom.accept_mailbox_eq_ok_iff intake).1 accepted
    exact
      ⟨carried, addressees_ne_nil_iff.1 somebody, knows_iff.2 known,
        delivered⟩
  · rintro ⟨carried, addressed, knows, delivered⟩
    have accepted :=
      (MailRoom.accept_mailbox_eq_ok_iff intake).2
        ⟨addressees_ne_nil_iff.2 addressed, knows_iff.1 knows, rfl⟩
    exact ⟨carried, ⟨_, accepted⟩, delivered⟩

end Taking

end MailboxServer

/-- The mail rooms of some servers, each at its authority. -/
def network (servers : List MailboxServer) : Network :=
  servers.map fun server => (server.authority, server.room)

/-- No two servers share an authority. -/
def Apart (servers : List MailboxServer) : Prop :=
  (servers.map MailboxServer.authority).Nodup

/-- An email gets through to a server that knows its recipients there. -/
def Arrives
    (servers : List MailboxServer)
    (authority : Authority)
    (email : Email) : Prop :=
  Submission.Carried email ∧
    ∃ server ∈ servers,
      server.authority = authority ∧
        server.Addressed email.recipients ∧
        server.Knows email.recipients

section Rooms

variable {servers : List MailboxServer}

/-- A server is found at its authority. -/
theorem room?_network
    (apart : Apart servers)
    {server : MailboxServer}
    (member : server ∈ servers) :
    (network servers).room? server.authority = some server.room := by
  induction servers with
  | nil =>
      cases member
  | cons first rest inductionHypothesis =>
      obtain ⟨alone, apartRest⟩ := List.nodup_cons.1 apart
      simp only [network, List.map_cons, Network.room?, List.lookup_cons]
      rcases List.mem_cons.1 member with rfl | inRest
      · simp
      · have different :
            (server.authority == first.authority) = false := by
          rw [beq_eq_false_iff_ne]
          exact fun same => alone (same ▸ List.mem_map_of_mem inRest)
        rw [different]
        exact inductionHypothesis apartRest inRest

/-- Nothing is found at other authorities. -/
theorem room?_network_eq_none
    {authority : Authority}
    (nobody : ∀ server ∈ servers, server.authority ≠ authority) :
    (network servers).room? authority = none := by
  simp only [network, Network.room?, List.lookup_eq_none_iff,
    List.mem_map, forall_exists_index, and_imp]
  rintro _ server member rfl
  simpa using Ne.symm (nobody server member)

/-- A mail room is replaced at its own server only. -/
theorem setRoom_network
    (apart : Apart servers)
    {server : MailboxServer}
    (member : server ∈ servers)
    (change : MailboxServer → MailboxServer)
    (moved : ∀ other, (change other).authority = other.authority)
    (kept :
      ∀ other, other.authority ≠ server.authority →
        change other = other) :
    (network servers).setRoom server.authority (change server).room =
      network (servers.map change) := by
  simp only [network, Network.setRoom, List.map_map]
  apply List.map_congr_left
  intro other isServer
  by_cases same : other.authority = server.authority
  · obtain rfl : other = server :=
      List.inj_on_of_nodup_map apart isServer member same
    simp [moved]
  · simp [same, kept other same]

end Rooms

section Attempts

variable
  {servers : List MailboxServer}
  (apart : Apart servers)
  (carrier : SocketAddress)

include apart

/-- One attempt: whether it arrives, and what every server has behind it. -/
theorem submit_network
    (authority : Authority)
    {email : Email}
    (submittable : Submission.Submittable email) :
    let attempted := Network.submit carrier (network servers) authority email
    (Arrives servers authority email ∧ attempted.1 = some carrier ∨
        ¬ Arrives servers authority email ∧ attempted.1 = none) ∧
      attempted.2 =
        network
          (servers.map (·.after [⟨authority, email, attempted.1⟩])) := by
  intro attempted
  by_cases someone : ∃ server ∈ servers, server.authority = authority
  · rcases someone with ⟨server, member, rfl⟩
    have changes (carrier? : Option SocketAddress) :=
      setRoom_network apart member
        (·.after [⟨server.authority, email, carrier?⟩])
        (fun _ => rfl)
        (fun other elsewhere =>
          MailboxServer.after_of_missed
            fun hit => elsewhere hit.1.symm)
    have found := room?_network apart member
    rcases Submission.submit_mailServer server.room submittable with
      ⟨later, taken, succeeded, left⟩ | ⟨untaken, ⟨error, failed⟩, left⟩
    · have shape :
          attempted =
            (some carrier,
              (network servers).setRoom server.authority later) := by
        simp [attempted, Network.submit, found, succeeded, left,
          Except.isOk, Except.toBool]
      obtain ⟨carried, addressed, knows, delivered⟩ :=
        MailboxServer.taken_iff.1 taken
      have gained :
          (server.after
            [⟨server.authority, email, some carrier⟩]).room = later := by
        rw [MailboxServer.deliver_room knows] at delivered
        rw [← Except.ok.inj delivered]
        simp [MailboxServer.after, MailboxServer.gains,
          MailboxServer.gainsOf, MailboxServer.room]
      rw [shape]
      refine ⟨Or.inl ⟨⟨carried, server, member, rfl, addressed, knows⟩, rfl⟩, ?_⟩
      rw [← changes, gained]
    · have shape :
          attempted =
            (none,
              (network servers).setRoom server.authority server.room) := by
        simp [attempted, Network.submit, found, failed, left,
          Except.isOk, Except.toBool]
      have unchanged :
          server.after [⟨server.authority, email, none⟩] = server :=
        MailboxServer.after_of_missed (by simp)
      rw [shape]
      refine ⟨Or.inr ⟨?_, rfl⟩, ?_⟩
      · rintro ⟨carried, other, isServer, same, addressed, knows⟩
        obtain rfl : other = server :=
          List.inj_on_of_nodup_map apart isServer member same
        exact untaken _
          (MailboxServer.taken_iff.2
            ⟨carried, addressed, knows, MailboxServer.deliver_room knows⟩)
      · rw [← changes, unchanged]
  · have nobody : ∀ server ∈ servers, server.authority ≠ authority :=
      fun server member same => someone ⟨server, member, same⟩
    have shape : attempted = (none, network servers) := by
      simp [attempted, Network.submit, room?_network_eq_none nobody]
    rw [shape]
    refine ⟨Or.inr ⟨?_, rfl⟩, ?_⟩
    · rintro ⟨_, server, member, same, _⟩
      exact nobody server member same
    · have unchanged :
          servers.map (·.after [⟨authority, email, none⟩]) = servers :=
        List.map_id'' (fun server => MailboxServer.after_of_missed (by simp)) _
      rw [unchanged]

omit apart in
/-- What arrives does not depend on what the mailboxes hold. -/
theorem arrives_after
    (attempts : List Relay.Attempt)
    (authority : Authority)
    (email : Email) :
    Arrives (servers.map (·.after attempts)) authority email ↔
      Arrives servers authority email := by
  simp only [Arrives, List.mem_map, exists_exists_and_eq_and]
  rfl

/-- A row of attempts: each arrives or not, and every server has what it gained. -/
theorem made_network
    {attempts : List Relay.Attempt}
    {final : Network}
    (made :
      Relay.Made (Network.submit carrier) (network servers) attempts final)
    (submittable :
      ∀ attempt ∈ attempts, Submission.Submittable attempt.email) :
    (∀ attempt ∈ attempts,
        Arrives servers attempt.authority attempt.email ∧
            attempt.carrier? = some carrier ∨
          ¬ Arrives servers attempt.authority attempt.email ∧
            attempt.carrier? = none) ∧
      final = network (servers.map (·.after attempts)) := by
  induction attempts generalizing servers with
  | nil =>
      cases made
      simp
  | cons attempt rest inductionHypothesis =>
      cases made with
      | attempt answered others =>
          rename_i authority email carrier? middle
          have step :=
            submit_network apart carrier authority
              (submittable _ List.mem_cons_self)
          rw [answered] at step
          rcases step with ⟨ended, moved⟩
          simp only at ended moved
          subst moved
          have apartLater :
              Apart
                (servers.map (·.after [⟨authority, email, carrier?⟩])) := by
            rw [Apart, List.map_map]
            exact apart
          obtain ⟨endedRest, last⟩ :=
            inductionHypothesis apartLater others fun other member =>
              submittable other (List.mem_cons_of_mem _ member)
          simp only [arrives_after] at endedRest
          constructor
          · intro other member
            rcases List.mem_cons.1 member with rfl | inRest
            · exact ended
            · exact endedRest other inRest
          · rw [last, List.map_map]
            apply congrArg network
            apply List.map_congr_left
            intro server _
            exact server.after_append [_] rest

end Attempts

end Postroom
