import Postroom.DomainTable
import Postroom.Email
import Postroom.IpAddress
import Postroom.Monitoring.Report

namespace Postroom.Relay

/-!
# Dispatching one email

An email goes once to every authority that serves one of its recipients'
domains, in ascending order of authorities. Each failure is followed by one
bounce to the sender's own server; a bounce is never bounced. Mail whose
sender could not be told of a failure is dropped at once.

What to try next depends on how the attempts before it ended, so a router makes
a plan: a tree of attempts that branches on their results. Following a plan
against an outbound, which may let each attempt succeed or fail in any way,
gives the attempts that were made and the outcome.
-/

/-- What decides the attempts: who serves a domain, and who signs bounces. -/
structure Router where
  domains : DomainTable
  /-- The sender of bounces. -/
  mailer : String

/-- What became of one email. -/
inductive Outcome where
  /-- The sender's domain is unknown, so nobody could be told of a failure. -/
  | dropped
  /-- No recipient's domain is known. -/
  | unroutable (domains : List String)
  /-- How many authorities took the email and how many bounces were tried. -/
  | delivered (taken bounced : Nat)
  deriving Repr, DecidableEq

/--
What remains to be tried for one email.

The result of an attempt is the end of the connection that carried the email,
if one did.
-/
inductive Plan where
  | finished (outcome : Outcome)
  | attempting
      (authority : Authority)
      (email : Email)
      (next : Option SocketAddress → Plan)

/-- One attempt to hand an email to an authority. -/
structure Attempt where
  authority : Authority
  email : Email
  /-- The end of the connection that carried the email, if one did. -/
  carrier? : Option SocketAddress

namespace Attempt

/-- The report of a successful attempt. -/
def report? (attempt : Attempt) : Option Monitoring.Report :=
  attempt.carrier?.map
    fun carrier => ⟨carrier.text, attempt.email.sender⟩

end Attempt

/--
How attempts end.

An outbound may look at its state, which remembers earlier attempts.
-/
abbrev Outbound (State : Type) :=
  State → Authority → Email → Option SocketAddress × State

/-- The outcome of one email, the attempts made for it, and what they left. -/
structure Dispatch (State : Type) where
  outcome : Outcome
  attempts : List Attempt
  state : State

namespace Plan

/-- Make the attempts of a plan. -/
def follow
    (outbound : Outbound State) :
    Plan →
    State →
    Dispatch State
  | .finished outcome, state =>
      ⟨outcome, [], state⟩
  | .attempting authority email next, state =>
      let (carrier?, later) := outbound state authority email
      let rest := (next carrier?).follow outbound later
      { rest with
        attempts := ⟨authority, email, carrier?⟩ :: rest.attempts }

end Plan

/-- The local part of the sender of bounces. -/
def mailerLocalPart : String :=
  "mailer"

/-- The subject of a bounce after a failed attempt. -/
def failedSubject : String :=
  "There was an error transferring this email"

/-- The subject of a bounce when no domain of the recipients is known. -/
def unknownDomainsSubject (domains : List String) : String :=
  "Email couldn't be sent to these unknown domains: " ++
    String.intercalate ", " domains

namespace Router

/-- The router of a server that can be reached at an address. -/
def atAddress
    (domains : DomainTable)
    (ip : IpAddress) :
    Router :=
  ⟨domains, mailerLocalPart ++ "@" ++ ip.text⟩

/-- The sender's address and the authority that serves it. -/
def home?
    (router : Router)
    (email : Email) :
    Option (Address × Authority) :=
  match email.senderAddress? with
  | none =>
      none
  | some sender =>
      (DomainTable.resolve? router.domains sender.domain).map
        fun authority => (sender, authority)

/-- The authorities of the recipients' domains, ascending, each once. -/
def destinations
    (router : Router)
    (email : Email) :
    List Authority :=
  ascending
    (email.recipients.filterMap
      (DomainTable.resolve? router.domains ·.domain))

/-- The recipients' domains that nobody serves, ascending, each once. -/
def unknownDomains
    (router : Router)
    (email : Email) :
    List String :=
  ascending
    ((email.recipients.map Address.domain).filter
      fun domain => (DomainTable.resolve? router.domains domain).isNone)

/-- The email that tells a sender of a failure. -/
def bounce
    (router : Router)
    (sender : Address)
    (subject : String)
    (email : Email) :
    Email :=
  ⟨[sender], router.mailer, subject, email.summary⟩

/--
Try some destinations one after another, each failure followed by a notice.

The counts are those of the destinations that were tried before.
-/
def planRound
    (email : Email)
    (home : Authority)
    (notice : Email)
    (taken bounced : Nat) :
    List Authority →
    Plan
  | [] =>
      .finished (.delivered taken bounced)
  | authority :: rest =>
      .attempting authority email fun
        | some _ =>
            planRound email home notice (taken + 1) bounced rest
        | none =>
            .attempting home notice fun _ =>
              planRound email home notice taken (bounced + 1) rest

/-- Deliver an email to every authority that its recipients lead to. -/
def plan
    (router : Router)
    (email : Email) :
    Plan :=
  match router.home? email with
  | none =>
      .finished .dropped
  | some (sender, home) =>
      match router.destinations email with
      | [] =>
          let domains := router.unknownDomains email
          let notice :=
            router.bounce sender (unknownDomainsSubject domains) email
          .attempting home notice fun _ =>
            .finished (.unroutable domains)
      | authorities =>
          let notice := router.bounce sender failedSubject email
          planRound email home notice 0 0 authorities

/-- Make the attempts for an email. -/
def dispatch
    (router : Router)
    (outbound : Outbound State)
    (state : State)
    (email : Email) :
    Dispatch State :=
  (router.plan email).follow outbound state

end Router

end Postroom.Relay
