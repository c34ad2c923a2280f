import Postroom.Proofs.Monitoring.Tallies
import Postroom.Proofs.Relay.Bounces
import Postroom.Relay.Queue

namespace Postroom.Relay

/-!
# What a relay has counted

Every successful attempt of a relay is reported once, under the text of its
connection and the sender of what was sent: the sender of the email, which can
be read as an address, or the mailer that signs the bounces. So a collector
that gets all reports of a run counts the successful attempts exactly, unless
a report outgrows what the collector reads of a datagram.
-/

open Monitoring (Report Reportable Statistics collectAll)

/-- An attempt succeeded only if the outbound said so. -/
theorem Made.answered
    {State : Type}
    {outbound : Outbound State}
    {state later : State}
    {attempts : List Attempt}
    (made : Made outbound state attempts later)
    {attempt : Attempt}
    (member : attempt ∈ attempts) :
    ∃ earlier,
      (outbound earlier attempt.authority attempt.email).1 =
        attempt.carrier? := by
  induction made with
  | nothing =>
      cases member
  | attempt answered _ inductionHypothesis =>
      rcases List.mem_cons.1 member with rfl | behind
      · exact ⟨_, congrArg Prod.fst answered⟩
      · exact inductionHypothesis behind

namespace Router

variable
  {State : Type}
  {outbound : Outbound State}

/-- What is dispatched one after another is dispatched singly. -/
theorem exists_dispatch_of_mem_dispatches
    {router : Router}
    {state : State}
    {emails : List Email}
    {done : Dispatch State}
    (member : done ∈ router.dispatches outbound state emails) :
    ∃ earlier, ∃ email ∈ emails,
      done = router.dispatch outbound earlier email := by
  induction emails generalizing state with
  | nil =>
      cases member
  | cons email rest inductionHypothesis =>
      rcases List.mem_cons.1 member with rfl | behind
      · exact ⟨state, email, List.mem_cons_self, rfl⟩
      · obtain ⟨earlier, other, inRest, same⟩ := inductionHypothesis behind
        exact ⟨earlier, other, List.mem_cons_of_mem _ inRest, same⟩

/-- What a relay sends is signed by a readable address or by the relay. -/
theorem reportable_of_mem_attempts
    {domains : DomainTable}
    {ip : IpAddress}
    {state : State}
    {email : Email}
    {attempt : Attempt}
    (member :
      attempt ∈
        ((atAddress domains ip).dispatch outbound state email).attempts) :
    Reportable attempt.email.sender := by
  cases answerable : (atAddress domains ip).home? email with
  | none =>
      rw [dispatch_of_homeless outbound state answerable] at member
      cases member
  | some home =>
      rcases bounce_of_mem_attempts answerable outbound state member with
        same | ⟨_, same⟩
      · rw [same]
        exact Or.inl ⟨_, written_of_home? answerable⟩
      · rw [same]
        exact Or.inr ⟨ip, rfl⟩

end Router

/-- The datagrams of a run carry the reports of its successful attempts. -/
theorem reportDatagrams_eq (attempts : List Attempt) :
    reportDatagrams attempts =
      (attempts.filterMap Attempt.report?).filterMap
        Monitoring.datagram? := by
  rw [List.filterMap_filterMap]
  rfl

section Counting

variable
  {State : Type}
  {outbound : Outbound State}
  (version4 :
    ∀ state authority email carrier,
      (outbound state authority email).1 = some carrier →
        ∃ octets, carrier.ip = .v4 octets)

include version4

/-- Over version 4 connections, every report of a relay is dotted. -/
theorem isDotted_of_mem_reports
    {domains : DomainTable}
    {ip : IpAddress}
    {state : State}
    {emails : List Email}
    {report : Report}
    (member :
      report ∈
        (((Router.atAddress domains ip).dispatches outbound state
          emails).flatMap Dispatch.attempts).filterMap Attempt.report?) :
    report.IsDotted := by
  obtain ⟨attempt, tried, reported⟩ := List.mem_filterMap.1 member
  obtain ⟨done, dispatched, inDone⟩ := List.mem_flatMap.1 tried
  obtain ⟨earlier, email, _, rfl⟩ :=
    Router.exists_dispatch_of_mem_dispatches dispatched
  obtain ⟨carrier, carried, rfl⟩ := Option.map_eq_some_iff.1 reported
  obtain ⟨asked, answer⟩ :=
    (Plan.made_follow outbound _ earlier).answered inDone
  obtain ⟨octets, isVersion4⟩ :=
    version4 _ _ _ carrier (answer.trans carried)
  refine ⟨⟨octets, carrier.port, ?_⟩, ?_⟩
  · rw [← isVersion4]
  · exact Router.reportable_of_mem_attempts inDone

/--
Whatever a relay tries for some emails, with whatever success, the collector
tallies the reports of the successful attempts: each that fits a datagram, as
far as the collector's window shows it, and no other. So it counts the servers
exactly if and only if all reports fit a datagram, and the senders exactly if
and only if all reports fit the window.
-/
theorem counts_of_successes
    (domains : DomainTable)
    (ip : IpAddress)
    (state : State)
    (emails : List Email) :
    let dispatches :=
      (Router.atAddress domains ip).dispatches outbound state emails
    let attempts := dispatches.flatMap Dispatch.attempts
    let reports := attempts.filterMap Attempt.report?
    let statistics := collectAll .empty (reportDatagrams attempts)
    statistics.Tallies (Report.counted reports) ∧
      (statistics.servers.Tallies (reports.map Report.server) ↔
        ∀ report ∈ reports, report.size ≤ 65507) ∧
      (statistics.addresses.Tallies (reports.map Report.address) ↔
        ∀ report ∈ reports, report.size ≤ 1024) := by
  intro dispatches attempts reports statistics
  have dotted : ∀ report ∈ reports, report.IsDotted :=
    fun _ => isDotted_of_mem_reports version4
  have tallies : statistics.Tallies (Report.counted reports) := by
    have counted := Report.tallies_counted dotted
    rwa [← reportDatagrams_eq] at counted
  refine ⟨tallies, ?_, ?_⟩
  · exact tallies.servers.iff_perm.trans Report.servers_perm_iff
  · exact
      tallies.addresses.iff_perm.trans (Report.addresses_perm_iff dotted)

end Counting

theorem counts_of_successes_refusesFirst :
    let domains : DomainTable :=
      .ofList [("a", ⟨"first", 25⟩), ("b", ⟨"second", 25⟩)]
    let emails : List Email :=
      [⟨[⟨"x", "a"⟩], "s@b", "t", ""⟩, ⟨[⟨"y", "b"⟩], "s@b", "t", ""⟩]
    let dispatches :=
      (Router.atAddress domains .loopback).dispatches
        Router.refusesFirst 0 emails
    let statistics :=
      collectAll .empty
        (reportDatagrams (dispatches.flatMap Dispatch.attempts))
    statistics.servers.Tallies ["127.0.0.1:4000", "127.0.0.1:4000"] ∧
      statistics.addresses.Tallies ["mailer@127.0.0.1", "s@b"] := by
  intro domains emails dispatches statistics
  have version4 :
      ∀ state authority email carrier,
        (Router.refusesFirst state authority email).1 = some carrier →
          ∃ octets, carrier.ip = .v4 octets := by
    intro state authority email carrier taken
    simp only [Router.refusesFirst] at taken
    split at taken
    · cases taken
    · cases taken
      exact ⟨_, rfl⟩
  have reported :
      (dispatches.flatMap Dispatch.attempts).filterMap Attempt.report? =
        [⟨"127.0.0.1:4000", "mailer@127.0.0.1"⟩,
          ⟨"127.0.0.1:4000", "s@b"⟩] := by
    decide
  obtain ⟨_, servers, addresses⟩ :=
    counts_of_successes version4 domains .loopback 0 emails
  rw [reported] at servers addresses
  exact ⟨servers.2 (by decide), addresses.2 (by decide)⟩

section LongSenders

/-- A sender whose local part has some number of letters. -/
def longSender (letters : Nat) : Address :=
  ⟨String.ofList (List.replicate letters 'x'), "home.org"⟩

/-- An email of such a sender to the same domain. -/
def longSigned (letters : Nat) : Email :=
  ⟨[⟨"bob", "home.org"⟩], (longSender letters).text, "s", "d"⟩

/-- A router that knows the domain. -/
abbrev homeRouter : Router :=
  Router.atAddress (.ofList [("home.org", ⟨"127.0.0.1", 2001⟩)])
    (.v4 ⟨10, 0, 0, 1⟩)

/-- An outbound that carries everything from one port. -/
def carriesAll : Outbound Unit :=
  fun _ _ _ => (some ⟨.loopback, 40000⟩, ())

/-- The attempts for an email of a sender with some letters. -/
def longAttempts (letters : Nat) : List Attempt :=
  (homeRouter.dispatches carriesAll () [longSigned letters]).flatMap
    Dispatch.attempts

/-- What is reported of them. -/
def longReport (letters : Nat) : Report :=
  ⟨"127.0.0.1:40000", (longSender letters).text⟩

theorem toList_longSender (letters : Nat) :
    (longSender letters).text.toList =
      List.replicate letters 'x' ++ "@home.org".toList := by
  have domain : "@" ++ "home.org" = "@home.org" := by
    decide
  rw [Address.text, longSender, String.append_assoc, domain,
    String.toList_append, String.toList_ofList]

/-- The server and the blank leave 1008 characters of the window to the sender. -/
theorem address_clipped_longReport
    {letters : Nat}
    (few : letters ≤ 1008) :
    (longReport letters).clipped.address =
      String.ofList
        (List.replicate letters 'x' ++
          "@home.org".toList.take (1008 - letters)) := by
  have server : "127.0.0.1:40000".toList.length = 15 := by
    decide
  have front : (List.replicate letters 'x').length ≤ 1008 := by
    rwa [List.length_replicate]
  rw [Report.clipped, longReport, server, toList_longSender,
    Monitoring.datagramWindow, List.take_append,
    List.take_of_length_le front, List.length_replicate]

section Attempts

variable
  {letters : Nat}
  (inhabited : 0 < letters)

include inhabited

theorem ofText?_longSender :
    Address.ofText? (longSender letters).text = some (longSender letters) := by
  have letter : Address.isAddressCharacter 'x' = true := by
    decide
  have localPart : Address.isHalf (longSender letters).localPart = true := by
    simp [Address.isHalf, longSender, letter]
    omega
  exact
    Address.ofText?_eq_some_iff.2
      ⟨rfl, localPart, (by decide : Address.isHalf "home.org" = true)⟩

theorem home?_longSigned :
    homeRouter.home? (longSigned letters) =
      some (longSender letters, ⟨"127.0.0.1", 2001⟩) := by
  have written :
      (longSigned letters).senderAddress? = some (longSender letters) :=
    ofText?_longSender inhabited
  have resolved :
      DomainTable.resolve? homeRouter.domains (longSender letters).domain =
        some ⟨"127.0.0.1", 2001⟩ :=
    (by decide :
      DomainTable.resolve? homeRouter.domains "home.org" =
        some ⟨"127.0.0.1", 2001⟩)
  simp [Router.home?, written, resolved]

theorem longAttempts_eq :
    longAttempts letters =
      [⟨⟨"127.0.0.1", 2001⟩, longSigned letters,
        some ⟨.loopback, 40000⟩⟩] := by
  have destinations :
      homeRouter.destinations (longSigned letters) =
        [⟨"127.0.0.1", 2001⟩] :=
    (by decide :
      ascending
          ([(⟨"bob", "home.org"⟩ : Address)].filterMap
            (DomainTable.resolve? homeRouter.domains ·.domain)) =
        [⟨"127.0.0.1", 2001⟩])
  have routable : homeRouter.destinations (longSigned letters) ≠ [] := by
    rw [destinations]
    exact List.cons_ne_nil _ _
  rw [longAttempts, Router.dispatches,
    Router.dispatch_of_routable carriesAll () (home?_longSigned inhabited)
      routable,
    destinations]
  rfl

theorem isDotted_longReport : (longReport letters).IsDotted where
  server :=
    ⟨⟨127, 0, 0, 1⟩, 40000,
      (by decide :
        "127.0.0.1:40000" = SocketAddress.text ⟨.loopback, 40000⟩)⟩
  address :=
    Or.inl ⟨_, ofText?_longSender inhabited⟩

/-- The collector counts one sender: as much of it as the window shows. -/
theorem tallies_longAttempts (few : letters ≤ 1008) :
    (collectAll .empty
        (reportDatagrams (longAttempts letters))).addresses.Tallies
      [(longReport letters).clipped.address] := by
  have dotted := isDotted_longReport inhabited
  have carrier :
      SocketAddress.text ⟨.loopback, 40000⟩ = "127.0.0.1:40000" := by
    decide
  have reported :
      (longAttempts letters).filterMap Attempt.report? =
        [longReport letters] := by
    rw [longAttempts_eq inhabited]
    simp [Attempt.report?, carrier, longReport, longSigned]
  have fits : (longReport letters).size ≤ Monitoring.largestDatagram := by
    have size := dotted.size_eq
    have server := dotted.length_server_le
    have domain : "@home.org".toList.length = 9 := by
      decide
    simp only [longReport, toList_longSender, List.length_append,
      List.length_replicate, domain] at size server
    rw [longReport, size, Monitoring.largestDatagram]
    omega
  have counted :
      (Report.counted [longReport letters]).map Report.address =
        [(longReport letters).clipped.address] := by
    simp [Report.counted, fits]
  have tallies :=
    Report.tallies_counted (List.forall_mem_singleton.2 dotted)
  rw [← reported, ← reportDatagrams_eq] at tallies
  have addresses := tallies.addresses
  rwa [reported, counted] at addresses

end Attempts

/-- Over 999 letters, what is counted is a sender that has sent nothing. -/
theorem counts_longAttempts
    {letters : Nat}
    (many : 1000 ≤ letters)
    (few : letters ≤ 1008) :
    let statistics :=
      collectAll .empty (reportDatagrams (longAttempts letters))
    (longAttempts letters).map (·.email.sender) =
        [(longSender letters).text] ∧
      (longAttempts letters).map Attempt.carrier? =
        [some ⟨.loopback, 40000⟩] ∧
      statistics.addresses.count (longSender letters).text = 0 ∧
      statistics.addresses.count
          (String.ofList
            (List.replicate letters 'x' ++
              "@home.org".toList.take (1008 - letters))) =
        1 := by
  intro statistics
  have inhabited : 0 < letters := by
    omega
  have tallies := tallies_longAttempts inhabited few
  rw [address_clipped_longReport few] at tallies
  have shorter :
      ("@home.org".toList.take (1008 - letters)).length <
        "@home.org".toList.length := by
    have domain : "@home.org".toList.length = 9 := by
      decide
    rw [List.length_take, domain]
    omega
  refine ⟨?_, ?_, ?_, ?_⟩
  · rw [longAttempts_eq inhabited]
    rfl
  · rw [longAttempts_eq inhabited]
    rfl
  · rw [(tallies _).1, List.count_eq_zero, List.mem_singleton]
    intro same
    have characters :=
      (congrArg String.toList same).trans String.toList_ofList
    rw [toList_longSender] at characters
    rw [← List.append_cancel_left characters] at shorter
    exact Nat.lt_irrefl _ shorter
  · rw [(tallies _).1, List.count_singleton_self]

/--
A report of 1025 bytes is one byte longer than the window, and what is counted
is a sender without the last letter, which has sent nothing.
-/
theorem long_sender_is_counted_shortened :
    let shortened :=
      String.ofList (List.replicate 1000 'x' ++ "@home.or".toList)
    let statistics := collectAll .empty (reportDatagrams (longAttempts 1000))
    (longAttempts 1000).map (·.email.sender) = [(longSender 1000).text] ∧
      (longAttempts 1000).map Attempt.carrier? =
        [some ⟨.loopback, 40000⟩] ∧
      statistics.addresses.count (longSender 1000).text = 0 ∧
      statistics.addresses.count shortened = 1 := by
  have tail : "@home.org".toList.take (1008 - 1000) = "@home.or".toList := by
    decide
  have counts :=
    counts_longAttempts (by decide : 1000 ≤ 1000) (by decide)
  rwa [tail] at counts

end LongSenders

end Postroom.Relay
