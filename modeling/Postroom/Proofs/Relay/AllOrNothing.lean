import Postroom.Proofs.Relay.Destinations

namespace Postroom.Relay

/-!
# All or nothing at every destination

A relay gives an email to all its recipients at a domain or to none of them, and
in the second case the sender's server is told once. All that users gain
besides are the notices to the sender.
-/

open Submission (Submittable Carried)

section Gains

variable
  {carrier : SocketAddress}
  {home server : MailboxServer}
  {email failure : Email}
  (differs : failure ≠ email)

include differs

/-- Who gains the email from the tries for a destination is a user there. -/
theorem of_mem_gains_tries
    {destination : MailboxServer}
    {user : String}
    (gained :
      ⟨user, email⟩ ∈
        server.gains (tries carrier home email failure destination)) :
    destination.authority = server.authority ∧
      destination.Knows email.recipients := by
  obtain ⟨attempt, member, isThere, carried, same, _⟩ :=
    MailboxServer.mem_gains.1 gained
  unfold tries at member
  split at member
  · rename_i knows
    obtain rfl := List.mem_singleton.1 member
    exact ⟨isThere, knows⟩
  · simp only [List.mem_cons, List.not_mem_nil, or_false] at member
    rcases member with rfl | rfl
    · cases carried
    · exact absurd same.symm differs

/-- A server that knows its recipients gives each of them the email once. -/
theorem count_gains_tries (user : String) :
    (server.gains (tries carrier home email failure server)).count
        ⟨user, email⟩ =
      if server.Knows email.recipients ∧
          user ∈ MailRoom.addressees server.domain email.recipients then
        1
      else
        0 := by
  by_cases knows : server.Knows email.recipients
  · have gains :
        server.gains (tries carrier home email failure server) =
          (MailRoom.addressees server.domain email.recipients).map
            (⟨·, email⟩) := by
      simp [tries, knows, MailboxServer.gains, MailboxServer.gainsOf]
    have injective :
        Function.Injective fun user => (⟨user, email⟩ : Mailbox.Gain) :=
      fun _ _ same => congrArg Mailbox.Gain.user same
    have once :=
      (MailRoom.nodup_addressees server.domain email.recipients).map
        injective
    rw [gains, once.count]
    simp [knows]
  · have never :
        ⟨user, email⟩ ∉
          server.gains (tries carrier home email failure server) :=
      fun gained => knows (of_mem_gains_tries differs gained).2
    simp [knows, List.count_eq_zero_of_not_mem never]

/-- Of all destinations only the server itself gives its users the email. -/
theorem count_gains_destinations
    {destinations : List MailboxServer}
    (apart : Apart destinations)
    (isDestination : server ∈ destinations)
    (user : String) :
    (server.gains
        (destinations.flatMap (tries carrier home email failure))).count
        ⟨user, email⟩ =
      if server.Knows email.recipients ∧
          user ∈ MailRoom.addressees server.domain email.recipients then
        1
      else
        0 := by
  have never
      (others : List MailboxServer)
      (elsewhere :
        ∀ other ∈ others, other.authority ≠ server.authority) :
      (server.gains
          (others.flatMap (tries carrier home email failure))).count
          ⟨user, email⟩ =
        0 := by
    apply List.count_eq_zero_of_not_mem
    intro gained
    rw [MailboxServer.gains, List.flatMap_assoc] at gained
    obtain ⟨other, member, fromOther⟩ := List.mem_flatMap.1 gained
    exact elsewhere other member (of_mem_gains_tries differs fromOther).1
  obtain ⟨before, behind, rfl⟩ := List.append_of_mem isDestination
  have split :
      server.gains
          ((before ++ server :: behind).flatMap
            (tries carrier home email failure)) =
        server.gains (before.flatMap (tries carrier home email failure)) ++
          server.gains (tries carrier home email failure server) ++
          server.gains
            (behind.flatMap (tries carrier home email failure)) := by
    simp [MailboxServer.gains]
  rw [Apart, List.map_append, List.map_cons, List.nodup_append,
    List.nodup_cons] at apart
  rcases apart with ⟨_, ⟨notBehind, _⟩, notBefore⟩
  rw [split, List.count_append, List.count_append,
    never before ?_, never behind ?_, count_gains_tries differs,
    Nat.zero_add, Nat.add_zero]
  · intro other member same
    exact notBehind (same ▸ List.mem_map_of_mem member)
  · intro other member same
    exact notBefore _ (List.mem_map_of_mem member) _ List.mem_cons_self same

end Gains

section Relaying

variable
  {domains : DomainTable}
  {servers : List MailboxServer}
  (leads : Leads domains servers)
  (carrier : SocketAddress)
  (ip : IpAddress)
  {email : Email}
  {sender : Address}
  {home : MailboxServer}
  (atHome : home ∈ servers)

/-- An attempt carries the email anywhere, or a notice to the sender's server. -/
def IsEmailOrNotice
    (ip : IpAddress)
    (sender : Address)
    (home : MailboxServer)
    (email : Email)
    (attempt : Attempt) : Prop :=
  attempt.email = email ∨
    attempt.authority = home.authority ∧
      ∃ subject, attempt.email = notice ip sender email subject

theorem isEmailOrNotice_of_mem_tries
    {subject : String}
    {destination : MailboxServer}
    {attempt : Attempt}
    (tried :
      attempt ∈
        tries carrier home email (notice ip sender email subject)
          destination) :
    IsEmailOrNotice ip sender home email attempt := by
  unfold tries at tried
  split at tried
  · obtain rfl := List.mem_singleton.1 tried
    exact Or.inl rfl
  · simp only [List.mem_cons, List.not_mem_nil, or_false] at tried
    rcases tried with rfl | rfl
    · exact Or.inl rfl
    · exact Or.inr ⟨rfl, subject, rfl⟩

include leads atHome

/-- What users gain besides the email are notices to the sender. -/
theorem of_mem_gains_of_ne
    {server : MailboxServer}
    (isServer : server ∈ servers)
    {attempts : List Attempt}
    (attempted :
      ∀ attempt ∈ attempts, IsEmailOrNotice ip sender home email attempt)
    {gain : Mailbox.Gain}
    (gained : gain ∈ server.gains attempts)
    (differs : gain.email ≠ email) :
    server = home ∧ gain.user = sender.localPart ∧
      ∃ subject, gain.email = notice ip sender email subject := by
  obtain ⟨attempt, member, isThere, _, same, addressed⟩ :=
    MailboxServer.mem_gains.1 gained
  rcases attempted attempt member with isEmail | ⟨wentHome, subject, isNotice⟩
  · exact absurd (same.trans isEmail) differs
  · have isHome : server = home :=
      leads.eq_of_authority isServer atHome (isThere.symm.trans wentHome)
    rw [isNotice] at addressed
    obtain ⟨recipient, listed, _, isUser⟩ :=
      MailRoom.mem_addressees.1 addressed
    obtain rfl := List.mem_singleton.1 listed
    exact ⟨isHome, isUser.symm, subject, same.trans isNotice⟩

variable
  (submittable : Submittable email)
  (carried : Carried email)
  (written : email.senderAddress? = some sender)
  (isHome : sender.isIn home.domain = true)
  (failureCarried :
    ∀ server ∈ servers,
      server.Addressed email.recipients →
      ¬ server.Knows email.recipients →
      Carried (notice ip sender email failedSubject))
  (unknownCarried :
    (∀ server ∈ servers, ¬ server.Addressed email.recipients) →
    Carried
      (notice ip sender email
        (unknownDomainsSubject
          (ascending (email.recipients.map Address.domain)))))

include submittable carried written isHome failureCarried unknownCarried

/-- What is tried for an email, and who gains it. -/
theorem dispatch_network :
    let dispatch :=
      (Router.atAddress domains ip).dispatch (Network.submit carrier)
        (network servers) email
    let failure := notice ip sender email failedSubject
    let unknown :=
      notice ip sender email
        (unknownDomainsSubject
          (ascending (email.recipients.map Address.domain)))
    ∃ destinations : List MailboxServer,
      (destinations.map MailboxServer.authority).Pairwise (· < ·) ∧
        (∀ server, server ∈ destinations ↔
          server ∈ servers ∧ server.Addressed email.recipients) ∧
        (dispatch.attempts =
          if destinations.isEmpty then
            [⟨home.authority, unknown, answer carrier home unknown⟩]
          else
            destinations.flatMap (tries carrier home email failure)) ∧
        dispatch.state =
          network (servers.map (·.after dispatch.attempts)) ∧
        (∀ attempt ∈ dispatch.attempts,
          IsEmailOrNotice ip sender home email attempt) ∧
        ∀ server ∈ servers, ∀ user,
          (server.gains dispatch.attempts).count ⟨user, email⟩ =
            if server.Addressed email.recipients ∧
                server.Knows email.recipients ∧
                user ∈
                  MailRoom.addressees server.domain email.recipients then
              1
            else
              0 := by
  intro dispatch failure unknown
  by_cases somewhere : ∃ server ∈ servers, server.Addressed email.recipients
  · have differs : failure ≠ email :=
      notice_ne ip sender failedSubject
    obtain ⟨destinations, ascend, exactly, attempts, final⟩ :=
      dispatch_network_routable leads carrier ip submittable written atHome
        isHome somewhere carried failureCarried
    have apart : Apart destinations := by
      refine List.Pairwise.imp ?_ ascend
      intro first second before same
      exact StrictOrder.irreflexive second (same ▸ before)
    have notEmpty : destinations.isEmpty = false := by
      rcases somewhere with ⟨server, member, addressed⟩
      rw [List.isEmpty_eq_false_iff_exists_mem]
      exact ⟨server, (exactly server).2 ⟨member, addressed⟩⟩
    refine ⟨destinations, ascend, exactly, ?_, final, ?_, ?_⟩
    · rw [notEmpty]
      exact attempts
    · intro attempt member
      rw [attempts] at member
      obtain ⟨destination, _, tried⟩ := List.mem_flatMap.1 member
      exact isEmailOrNotice_of_mem_tries carrier ip tried
    · intro server isServer user
      rw [attempts]
      by_cases addressed : server.Addressed email.recipients
      · rw [count_gains_destinations differs apart
          ((exactly server).2 ⟨isServer, addressed⟩)]
        simp [addressed]
      · rw [if_neg fun all => addressed all.1]
        apply List.count_eq_zero_of_not_mem
        intro gained
        rw [MailboxServer.gains, List.flatMap_assoc] at gained
        obtain ⟨other, isDestination, fromOther⟩ :=
          List.mem_flatMap.1 gained
        obtain ⟨isOther, otherAddressed⟩ := (exactly other).1 isDestination
        have same : other = server :=
          leads.eq_of_authority isOther isServer
            (of_mem_gains_tries differs fromOther).1
        exact addressed (same ▸ otherAddressed)
  · have nowhere : ∀ server ∈ servers, ¬ server.Addressed email.recipients :=
      fun server member addressed => somewhere ⟨server, member, addressed⟩
    obtain ⟨attempts, final⟩ :=
      dispatch_network_unroutable leads carrier ip submittable written atHome
        isHome nowhere (unknownCarried nowhere)
    refine ⟨[], List.Pairwise.nil, ?_, attempts, final, ?_, ?_⟩
    · intro server
      simpa using nowhere server
    · intro attempt member
      rw [attempts] at member
      obtain rfl := List.mem_singleton.1 member
      exact Or.inr ⟨rfl, _, rfl⟩
    · intro server isServer user
      rw [if_neg fun all => nowhere server isServer all.1]
      apply List.count_eq_zero_of_not_mem
      intro gained
      obtain ⟨attempt, member, _, _, same, _⟩ :=
        MailboxServer.mem_gains.1 gained
      rw [attempts] at member
      obtain rfl := List.mem_singleton.1 member
      exact notice_ne ip sender _ same.symm

/--
After an email was relayed, all its recipients at a domain have gained it once,
or none of them has and the sender's server was told once; with no recipient at
any domain, only the sender's server was told. What was tried determines what
every mailbox gained, whatever it held before.
-/
theorem all_or_nothing :
    let dispatch :=
      (Router.atAddress domains ip).dispatch (Network.submit carrier)
        (network servers) email
    let failure :=
      notice ip sender email "There was an error transferring this email"
    let unknown :=
      notice ip sender email
        ("Email couldn't be sent to these unknown domains: " ++
          String.intercalate ", "
            (ascending (email.recipients.map Address.domain)))
    (∃ destinations : List MailboxServer,
        (destinations.map MailboxServer.authority).Pairwise
            Authority.Precedes ∧
          (∀ server, server ∈ destinations ↔
            server ∈ servers ∧ server.Addressed email.recipients) ∧
          dispatch.attempts =
            if destinations.isEmpty then
              [⟨home.authority, unknown, answer carrier home unknown⟩]
            else
              destinations.flatMap (tries carrier home email failure)) ∧
      dispatch.state =
        network (servers.map (·.after dispatch.attempts)) ∧
      ∀ server ∈ servers,
        let gains := server.gains dispatch.attempts
        let later := (server.after dispatch.attempts).store
        (server.Addressed email.recipients →
            server.Knows email.recipients ∧
                (∀ user, gains.count ⟨user, email⟩ =
                  if user ∈
                      MailRoom.addressees server.domain
                        email.recipients then
                    1
                  else
                    0) ∨
              ¬ server.Knows email.recipients ∧
                ∀ user, gains.count ⟨user, email⟩ = 0) ∧
          (¬ server.Addressed email.recipients →
            ∀ user, gains.count ⟨user, email⟩ = 0) ∧
          (∀ gain ∈ gains, gain.email ≠ email →
            server = home ∧ gain.user = sender.localPart ∧
              ∃ subject, gain.email = notice ip sender email subject) ∧
          (server.store.Ordered →
            server.store.nextId.toNat + gains.length < UInt64.size →
            ∀ user mail, later.copies user mail =
              server.store.copies user mail + gains.count ⟨user, mail⟩) := by
  intro dispatch failure unknown
  obtain
    ⟨destinations, ascend, exactly, attempts, final, attempted, counted⟩ :=
    dispatch_network leads carrier ip atHome submittable carried written
      isHome failureCarried unknownCarried
  refine
    ⟨⟨destinations, ascend.imp Authority.precedes_iff_lt.2, exactly,
        attempts⟩,
      final, ?_⟩
  intro server isServer gains later
  refine ⟨?_, ?_, ?_, ?_⟩
  · intro addressed
    by_cases knows : server.Knows email.recipients
    · refine Or.inl ⟨knows, fun user => ?_⟩
      simpa [addressed, knows] using counted server isServer user
    · refine Or.inr ⟨knows, fun user => ?_⟩
      simpa [knows] using counted server isServer user
  · intro elsewhere user
    simpa [elsewhere] using counted server isServer user
  · intro gain gained differs
    exact of_mem_gains_of_ne leads ip atHome isServer attempted gained differs
  · intro ordered roomy user mail
    exact ordered.copies_depositEach roomy user mail

end Relaying

/-- A server whose only user sends the email below. -/
def senderServer : MailboxServer :=
  ⟨⟨"first", 25⟩, "a", .ofList [("s", "p")], .empty⟩

/-- A server that knows one of the two recipients at its domain. -/
def otherServer : MailboxServer :=
  ⟨⟨"second", 25⟩, "b", .ofList [("x", "q")], .empty⟩

def bothDomains : DomainTable :=
  .ofList [("a", ⟨"first", 25⟩), ("b", ⟨"second", 25⟩)]

/-- An email to its sender, in two spellings, and to a user and a stranger. -/
def halfKnown : Email :=
  ⟨[⟨"s", "A"⟩, ⟨"x", "b"⟩, ⟨"y", "B"⟩, ⟨"s", "a"⟩], "s@A", "t", ""⟩

theorem leads_bothDomains :
    Leads bothDomains [senderServer, otherServer] where
  apart :=
    List.nodup_cons.2 ⟨by decide, List.nodup_singleton _⟩
  distinct := by
    decide
  entered := by
    intro name authority
    have entries :
        bothDomains.entries =
          [("a", ⟨"first", 25⟩), ("b", ⟨"second", 25⟩)] :=
      rfl
    simp only [entries, senderServer, otherServer, List.mem_cons,
      List.not_mem_nil, or_false, Prod.mk.injEq, exists_eq_or_imp,
      exists_eq_left]
    simp only [eq_comm]

theorem all_or_nothing_halfKnown :
    let servers := [senderServer, otherServer]
    let attempts :=
      ((Router.atAddress bothDomains .loopback).dispatch
        (Network.submit ⟨.loopback, 4000⟩) (network servers)
        halfKnown).attempts
    Leads bothDomains servers ∧ Submittable halfKnown ∧
      Carried halfKnown ∧
      (senderServer.gains attempts).count ⟨"s", halfKnown⟩ = 1 ∧
      (senderServer.after attempts).store.copies "s" halfKnown = 1 ∧
      ∀ user, (otherServer.gains attempts).count ⟨user, halfKnown⟩ = 0 := by
  intro servers attempts
  have submittable : Submittable halfKnown :=
    ⟨by decide, by decide +kernel, by decide, by decide, by decide⟩
  have carried : Carried halfKnown :=
    ⟨by decide +kernel, by decide, by decide, by decide⟩
  have written : halfKnown.senderAddress? = some ⟨"s", "A"⟩ := by
    decide +kernel
  have relayed :=
    all_or_nothing leads_bothDomains ⟨.loopback, 4000⟩ .loopback
      List.mem_cons_self submittable carried written (by decide)
      (fun _ _ _ _ =>
        ⟨by decide +kernel, by decide +kernel, by decide +kernel,
          by decide +kernel⟩)
      (fun nowhere =>
        absurd (by decide) (nowhere senderServer List.mem_cons_self))
  obtain ⟨atHome, _, _, deposited⟩ :=
    relayed.2.2 senderServer List.mem_cons_self
  have once : (senderServer.gains attempts).count ⟨"s", halfKnown⟩ = 1 := by
    rcases atHome (by decide) with ⟨_, counted⟩ | ⟨strange, _⟩
    · exact (counted "s").trans (by decide)
    · exact absurd (by decide) strange
  have ordered : senderServer.store.Ordered :=
    Mailbox.Store.ordered_of_describes Mailbox.Ledger.describes_empty
      Mailbox.Ledger.sound_empty (by decide)
  -- Besides the email there is the notice that the other server refused it.
  have roomy :
      senderServer.store.nextId.toNat + (senderServer.gains attempts).length <
        UInt64.size := by
    decide +kernel
  have held :
      (senderServer.after attempts).store.copies "s" halfKnown = 1 := by
    rw [deposited ordered roomy, once]
    rfl
  refine ⟨leads_bothDomains, submittable, carried, once, held, ?_⟩
  rcases (relayed.2.2 otherServer
      (List.mem_cons_of_mem _ List.mem_cons_self)).1 (by decide) with
    ⟨knows, _⟩ | ⟨_, never⟩
  · exact absurd knows (by decide)
  · exact never

end Postroom.Relay
