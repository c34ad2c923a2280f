import Postroom.Proofs.Relay.Delivery
import Postroom.Proofs.Relay.Notices

namespace Postroom

/-!
# The attempts at the servers of a network

When a domain table leads exactly to the mailbox servers of a network, every
server that recipients are at is tried once, and it answers as its user table
says. The spelling by which a recipient names a domain matters neither on the
way nor at the server.
-/

open Submission (Submittable Carried)

/-- A domain table that leads from each domain to the one server that has it. -/
structure Leads
    (domains : DomainTable)
    (servers : List MailboxServer) : Prop where
  apart : Apart servers
  distinct :
    servers.Pairwise fun first second =>
      Text.sameLetters first.domain second.domain = false
  entered :
    ∀ name authority, (name, authority) ∈ domains.entries ↔
      ∃ server ∈ servers,
        server.domain = name ∧ server.authority = authority

namespace Leads

variable
  {domains : DomainTable}
  {servers : List MailboxServer}
  (leads : Leads domains servers)

include leads

/-- No two servers share an authority. -/
theorem eq_of_authority
    {first second : MailboxServer}
    (isFirst : first ∈ servers)
    (isSecond : second ∈ servers)
    (same : first.authority = second.authority) :
    first = second :=
  List.inj_on_of_nodup_map leads.apart isFirst isSecond same

/-- The names of the table differ in more than letter case, as the domains do. -/
theorem distinct_domains : domains.Distinct := by
  have names : domains.entries.Pairwise fun first second =>
      first.1 ≠ second.1 :=
    List.pairwise_map.1 domains.distinct
  refine List.Pairwise.imp_of_mem ?_ names
  intro first second isFirst isSecond differ
  obtain ⟨firstServer, isFirstServer, firstName, _⟩ :=
    (leads.entered first.1 first.2).1 isFirst
  obtain ⟨secondServer, isSecondServer, secondName, _⟩ :=
    (leads.entered second.1 second.2).1 isSecond
  rw [Bool.eq_false_iff]
  intro same
  have sameServer : firstServer = secondServer :=
    Text.eq_of_sameLetters leads.distinct isFirstServer isSecondServer
      (by rw [firstName, secondName]; exact same)
  exact differ (by rw [← firstName, ← secondName, sameServer])

/-- The table reaches the servers that the recipients address. -/
theorem reaches_iff
    {recipients : List Address}
    {authority : Authority} :
    domains.Reaches recipients authority ↔
      ∃ server ∈ servers,
        server.authority = authority ∧ server.Addressed recipients := by
  constructor
  · rintro ⟨recipient, listed, name, entered, same⟩
    obtain ⟨server, member, rfl, rfl⟩ := (leads.entered _ _).1 entered
    exact
      ⟨server, member, rfl, recipient, listed,
        (Text.sameLetters_comm _ _).trans same⟩
  · rintro ⟨server, member, rfl, recipient, listed, inside⟩
    exact
      ⟨recipient, listed, server.domain,
        (leads.entered _ _).2 ⟨server, member, rfl, rfl⟩,
        (Text.sameLetters_comm _ _).trans inside⟩

end Leads

namespace Relay

/-- How an attempt at a server ends that some of the recipients are at. -/
def answer
    (carrier : SocketAddress)
    (server : MailboxServer)
    (email : Email) :
    Option SocketAddress :=
  if server.Knows email.recipients then some carrier else none

/-- What is tried for a destination: the email, and a notice if it fails. -/
def tries
    (carrier : SocketAddress)
    (home : MailboxServer)
    (email failure : Email)
    (server : MailboxServer) :
    List Attempt :=
  if server.Knows email.recipients then
    [⟨server.authority, email, some carrier⟩]
  else
    [⟨server.authority, email, none⟩,
      ⟨home.authority, failure, answer carrier home failure⟩]

/-- Visits whose attempts are those of servers are what is tried for the servers. -/
theorem exists_destinations
    {carrier : SocketAddress}
    {home : MailboxServer}
    {email failure : Email}
    {servers : List MailboxServer}
    {visits : List Visit}
    (each :
      ∀ visit ∈ visits, ∃ server ∈ servers,
        server.authority = visit.authority ∧
          Visit.attempts email home.authority failure visit =
            tries carrier home email failure server) :
    ∃ destinations : List MailboxServer,
      destinations.map MailboxServer.authority =
          visits.map Visit.authority ∧
        (∀ server ∈ destinations, server ∈ servers) ∧
        visits.flatMap (Visit.attempts email home.authority failure) =
          destinations.flatMap (tries carrier home email failure) := by
  induction visits with
  | nil =>
      exact ⟨[], rfl, by simp, rfl⟩
  | cons visit rest inductionHypothesis =>
      obtain ⟨server, isServer, same, tried⟩ :=
        each visit List.mem_cons_self
      obtain ⟨others, names, areServers, triedRest⟩ :=
        inductionHypothesis fun other member =>
          each other (List.mem_cons_of_mem visit member)
      refine ⟨server :: others, ?_, ?_, ?_⟩
      · simp [same, names]
      · simpa [isServer] using areServers
      · simp [tried, triedRest]

section Dispatching

variable
  {domains : DomainTable}
  {servers : List MailboxServer}
  (leads : Leads domains servers)
  (carrier : SocketAddress)

include leads

/-- An attempt at a server that recipients are at ends as the server answers. -/
theorem eq_answer
    {server : MailboxServer}
    (member : server ∈ servers)
    {email : Email}
    (carried : Carried email)
    (addressed : server.Addressed email.recipients)
    {carrier? : Option SocketAddress}
    (ended :
      Arrives servers server.authority email ∧ carrier? = some carrier ∨
        ¬ Arrives servers server.authority email ∧ carrier? = none) :
    carrier? = answer carrier server email := by
  have arrives :
      Arrives servers server.authority email ↔
        server.Knows email.recipients := by
    constructor
    · rintro ⟨_, other, isServer, same, _, knows⟩
      obtain rfl : other = server :=
        leads.eq_of_authority isServer member same
      exact knows
    · intro knows
      exact ⟨carried, server, member, rfl, addressed, knows⟩
  rw [arrives] at ended
  rcases ended with ⟨knows, succeeded⟩ | ⟨strange, failed⟩
  · simp [answer, knows, succeeded]
  · simp [answer, strange, failed]

/-- A visit to a server that is addressed makes the tries for that server. -/
theorem attempts_eq_tries
    {server home : MailboxServer}
    (member : server ∈ servers)
    (atHome : home ∈ servers)
    {visit : Visit}
    (isThere : visit.authority = server.authority)
    {email failure : Email}
    (carried : Carried email)
    (addressed : server.Addressed email.recipients)
    (failureCarried : ¬ server.Knows email.recipients → Carried failure)
    (failureAddressed : home.Addressed failure.recipients)
    (ended :
      ∀ attempt ∈ visit.attempts email home.authority failure,
        Arrives servers attempt.authority attempt.email ∧
            attempt.carrier? = some carrier ∨
          ¬ Arrives servers attempt.authority attempt.email ∧
            attempt.carrier? = none) :
    visit.attempts email home.authority failure =
      tries carrier home email failure server := by
  have first :=
    ended ⟨visit.authority, email, visit.carrier?⟩ List.mem_cons_self
  rw [isThere] at first
  have answered : visit.carrier? = answer carrier server email :=
    eq_answer leads carrier member carried addressed first
  by_cases knows : server.Knows email.recipients
  · have taken : visit.carrier? = some carrier := by
      simpa [answer, knows] using answered
    simp [Visit.attempts, Visit.failed, tries, knows, taken, isThere]
  · have refused : visit.carrier? = none := by
      simpa [answer, knows] using answered
    have shape :
        visit.attempts email home.authority failure =
          [⟨visit.authority, email, none⟩,
            ⟨home.authority, failure, visit.noticeCarrier?⟩] := by
      simp [Visit.attempts, Visit.failed, refused]
    rw [shape] at ended ⊢
    have noticed :
        visit.noticeCarrier? = answer carrier home failure :=
      eq_answer leads carrier atHome (failureCarried knows) failureAddressed
        (ended ⟨home.authority, failure, visit.noticeCarrier?⟩
          (List.mem_cons_of_mem _ List.mem_cons_self))
    simp [tries, knows, noticed, isThere]

variable
  (ip : IpAddress)
  {email : Email}
  (submittable : Submittable email)
  {sender : Address}
  (written : email.senderAddress? = some sender)
  {home : MailboxServer}
  (atHome : home ∈ servers)
  (isHome : sender.isIn home.domain = true)

/-- Mail of a sender at a server's domain is answered at that server. -/
theorem home?_eq_some
    (written : email.senderAddress? = some sender)
    (atHome : home ∈ servers)
    (isHome : sender.isIn home.domain = true) :
    (Router.atAddress domains ip).home? email =
      some (sender, home.authority) := by
  have serves : domains.Serves sender.domain home.authority :=
    ⟨home.domain, (leads.entered _ _).2 ⟨home, atHome, rfl, rfl⟩,
      (Text.sameLetters_comm _ _).trans isHome⟩
  exact
    (Router.home?_eq_some_iff leads.distinct_domains).2 ⟨written, serves⟩

/-- The destinations are the authorities of the servers that are addressed. -/
theorem mem_destinations_iff {authority : Authority} :
    authority ∈ (Router.atAddress domains ip).destinations email ↔
      ∃ server ∈ servers,
        server.authority = authority ∧
          server.Addressed email.recipients :=
  (Router.mem_destinations leads.distinct_domains).trans leads.reaches_iff

/-- Servers at the destinations' authorities are those that are addressed. -/
theorem mem_iff_of_authorities
    {destinations : List MailboxServer}
    (areServers : ∀ server ∈ destinations, server ∈ servers)
    (names :
      destinations.map MailboxServer.authority =
        (Router.atAddress domains ip).destinations email)
    (server : MailboxServer) :
    server ∈ destinations ↔
      server ∈ servers ∧ server.Addressed email.recipients := by
  have reached {authority : Authority} :
      authority ∈ (Router.atAddress domains ip).destinations email ↔
        ∃ server ∈ servers,
          server.authority = authority ∧
            server.Addressed email.recipients :=
    mem_destinations_iff leads ip
  constructor
  · intro isDestination
    have member := areServers server isDestination
    obtain ⟨other, isOther, same, addressed⟩ :=
      reached.1 (names ▸ List.mem_map_of_mem isDestination)
    obtain rfl := leads.eq_of_authority isOther member same
    exact ⟨member, addressed⟩
  · rintro ⟨member, addressed⟩
    have isName := reached.2 ⟨server, member, rfl, addressed⟩
    rw [← names] at isName
    obtain ⟨other, isDestination, same⟩ := List.mem_map.1 isName
    obtain rfl :=
      leads.eq_of_authority (areServers other isDestination) member same
    exact isDestination

include submittable written atHome isHome

/-- With a destination, the tries of all destinations are made in turn. -/
theorem dispatch_network_routable
    (somewhere : ∃ server ∈ servers, server.Addressed email.recipients)
    (carried : Carried email)
    (failureCarried :
      ∀ server ∈ servers,
        server.Addressed email.recipients →
        ¬ server.Knows email.recipients →
        Carried (notice ip sender email failedSubject)) :
    let dispatch :=
      (Router.atAddress domains ip).dispatch (Network.submit carrier)
        (network servers) email
    let failure := notice ip sender email failedSubject
    ∃ destinations : List MailboxServer,
      (destinations.map MailboxServer.authority).Pairwise (· < ·) ∧
        (∀ server, server ∈ destinations ↔
          server ∈ servers ∧ server.Addressed email.recipients) ∧
        dispatch.attempts =
          destinations.flatMap (tries carrier home email failure) ∧
        dispatch.state =
          network (servers.map (·.after dispatch.attempts)) := by
  intro dispatch failure
  have routable : (Router.atAddress domains ip).destinations email ≠ [] := by
    rcases somewhere with ⟨server, member, addressed⟩
    exact List.ne_nil_of_mem
      ((mem_destinations_iff leads ip).2 ⟨server, member, rfl, addressed⟩)
  have round :
      dispatch =
        (Router.planRound email home.authority failure 0 0
          ((Router.atAddress domains ip).destinations email)).follow
          (Network.submit carrier) (network servers) :=
    Router.dispatch_of_routable _ _
      (home?_eq_some leads ip written atHome isHome) routable
  obtain ⟨visits, visited, made, _⟩ :=
    Router.follow_planRound (Network.submit carrier) email home.authority
      failure 0 0 ((Router.atAddress domains ip).destinations email)
      (network servers)
  rw [← round] at made
  have submittableEach :
      ∀ attempt ∈ dispatch.attempts, Submittable attempt.email := by
    intro attempt member
    rw [made] at member
    obtain ⟨visit, _, isAttempt⟩ := List.mem_flatMap.1 member
    rcases Visit.email_of_mem_attempts isAttempt with same | ⟨_, same⟩
    · exact same ▸ submittable
    · exact same ▸ submittable_notice ip submittable written (by decide)
  obtain ⟨ended, final⟩ :=
    made_network leads.apart carrier
      (Plan.made_follow (Network.submit carrier)
        ((Router.atAddress domains ip).plan email) (network servers))
      submittableEach
  have each :
      ∀ visit ∈ visits, ∃ server ∈ servers,
        server.authority = visit.authority ∧
          visit.attempts email home.authority failure =
            tries carrier home email failure server := by
    intro visit isVisit
    obtain ⟨server, member, same, addressed⟩ :=
      (mem_destinations_iff leads ip).1
        (visited ▸ List.mem_map_of_mem isVisit)
    refine
      ⟨server, member, same,
        attempts_eq_tries leads carrier member atHome same.symm carried addressed
          (failureCarried server member addressed)
          ⟨sender, List.mem_singleton.2 rfl, isHome⟩ ?_⟩
    intro attempt isAttempt
    have isMade : attempt ∈ dispatch.attempts :=
      made ▸ List.mem_flatMap.2 ⟨visit, isVisit, isAttempt⟩
    exact ended attempt isMade
  obtain ⟨destinations, names, areServers, tried⟩ :=
    exists_destinations each
  rw [visited] at names
  refine ⟨destinations, ?_, ?_, made.trans tried, final⟩
  · rw [names]
    exact pairwise_ascending _
  · exact mem_iff_of_authorities leads ip areServers names

/-- Without a destination, one notice names the domains of the recipients. -/
theorem dispatch_network_unroutable
    (nowhere : ∀ server ∈ servers, ¬ server.Addressed email.recipients)
    (noticeCarried :
      Carried
        (notice ip sender email
          (unknownDomainsSubject
            (ascending (email.recipients.map Address.domain))))) :
    let dispatch :=
      (Router.atAddress domains ip).dispatch (Network.submit carrier)
        (network servers) email
    let unknown :=
      notice ip sender email
        (unknownDomainsSubject
          (ascending (email.recipients.map Address.domain)))
    dispatch.attempts =
        [⟨home.authority, unknown, answer carrier home unknown⟩] ∧
      dispatch.state =
        network (servers.map (·.after dispatch.attempts)) := by
  intro dispatch unknown
  have unreached :
      ∀ authority, ¬ domains.Reaches email.recipients authority := by
    intro authority reached
    obtain ⟨server, isServer, _, addressed⟩ := leads.reaches_iff.1 reached
    exact nowhere server isServer addressed
  have unroutable : (Router.atAddress domains ip).destinations email = [] :=
    (Router.destinations_eq_nil_iff leads.distinct_domains).2 unreached
  have allUnknown :
      (Router.atAddress domains ip).unknownDomains email =
        ascending (email.recipients.map Address.domain) :=
    Router.unknownDomains_of_unreached unreached
  have single :=
    Router.dispatch_of_unroutable (Network.submit carrier)
      (network servers) (home?_eq_some leads ip written atHome isHome)
      unroutable
  rw [Router.unroutableNotice, allUnknown, atAddress_bounce] at single
  have named :
      ∀ domain ∈ ascending (email.recipients.map Address.domain),
        ∃ recipient ∈ email.recipients, recipient.domain = domain :=
    fun domain member => List.mem_map.1 (mem_ascending.1 member)
  obtain ⟨ended, final⟩ :=
    submit_network leads.apart carrier home.authority
      (submittable_notice ip submittable written
        (isOneLine_unknownDomainsSubject submittable.valid named))
  have answered :
      (Network.submit carrier (network servers) home.authority unknown).1 =
        answer carrier home unknown :=
    eq_answer leads carrier atHome noticeCarried
      ⟨sender, List.mem_singleton.2 rfl, isHome⟩ ended
  have attempts :
      dispatch.attempts =
        [⟨home.authority, unknown, answer carrier home unknown⟩] := by
    rw [← answered]
    exact congrArg Dispatch.attempts single
  refine ⟨attempts, ?_⟩
  rw [attempts, ← answered, ← final]
  exact congrArg Dispatch.state single

end Dispatching

end Relay

end Postroom
