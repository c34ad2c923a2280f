import Postroom.Proofs.DomainTable
import Postroom.Proofs.Text.Utf8
import Postroom.Relay.Dispatch

namespace Postroom

/-!
# The attempts made for an email

Whatever an outbound answers, the attempts for an email are those of a round
of visits: every authority that serves a recipient's domain is tried once, in
ascending order, and a failed visit leaves one notice with the sender's own
server before the next authority is tried.
-/

namespace Authority

/-- The order of visits: by the bytes of the hosts, then by the ports. -/
def Precedes (first second : Authority) : Prop :=
  Text.encode first.host < Text.encode second.host ∨
    first.host = second.host ∧ first.port < second.port

theorem precedes_iff_lt
    {first second : Authority} :
    first.Precedes second ↔ first < second :=
  or_congr Text.encode_lt_encode_iff Iff.rfl

end Authority

namespace Relay

/-- Attempts with the answers that an outbound gives to them, one by one. -/
inductive Made
    (outbound : Outbound State) :
    State →
    List Attempt →
    State → Prop where
  | nothing : Made outbound state [] state
  | attempt
      (answered : outbound state authority email = (carrier?, middle))
      (rest : Made outbound middle attempts later) :
      Made outbound state
        (⟨authority, email, carrier?⟩ :: attempts) later

/-- No result is made up: every attempt was put to the outbound. -/
theorem Plan.made_follow
    (outbound : Outbound State)
    (plan : Plan)
    (state : State) :
    Made outbound state
      (plan.follow outbound state).attempts
      (plan.follow outbound state).state := by
  induction plan generalizing state with
  | finished outcome =>
      exact .nothing
  | attempting authority email next inductionHypothesis =>
      exact .attempt rfl (inductionHypothesis _ _)

/-- What happened at one destination. -/
structure Visit where
  authority : Authority
  /-- The end of the connection that carried the email, if one did. -/
  carrier? : Option SocketAddress
  /-- What became of the notice, where the visit needed one. -/
  noticeCarrier? : Option SocketAddress

namespace Visit

/-- Whether the email was not taken. -/
def failed (visit : Visit) : Bool :=
  visit.carrier?.isNone

/-- The email itself, and after a failure one notice to the home authority. -/
def attempts
    (email : Email)
    (home : Authority)
    (notice : Email)
    (visit : Visit) :
    List Attempt :=
  ⟨visit.authority, email, visit.carrier?⟩ ::
    if visit.failed then
      [⟨home, notice, visit.noticeCarrier?⟩]
    else
      []

/-- A visit carries the email, or the notice to the home authority. -/
theorem email_of_mem_attempts
    {email notice : Email}
    {home : Authority}
    {visit : Visit}
    {attempt : Attempt}
    (member : attempt ∈ visit.attempts email home notice) :
    attempt.email = email ∨
      attempt.authority = home ∧ attempt.email = notice := by
  unfold attempts at member
  rcases List.mem_cons.1 member with rfl | behind
  · exact Or.inl rfl
  · split at behind
    · obtain rfl := List.mem_singleton.1 behind
      exact Or.inr ⟨rfl, rfl⟩
    · cases behind

end Visit

namespace Router

variable {State : Type} (outbound : Outbound State)

/-- A round visits the given authorities one after another. -/
theorem follow_planRound
    (email : Email)
    (home : Authority)
    (notice : Email)
    (taken bounced : Nat)
    (authorities : List Authority)
    (state : State) :
    let dispatch :=
      (planRound email home notice taken bounced authorities).follow
        outbound state
    ∃ visits : List Visit,
      visits.map Visit.authority = authorities ∧
        dispatch.attempts =
          visits.flatMap (Visit.attempts email home notice) ∧
        dispatch.outcome =
          .delivered (taken + visits.countP (!·.failed))
            (bounced + visits.countP Visit.failed) := by
  induction authorities generalizing taken bounced state with
  | nil =>
      exact ⟨[], rfl, rfl, rfl⟩
  | cons authority rest inductionHypothesis =>
      -- Only a failed visit has a second attempt, and with it a second state.
      rcases answered : outbound state authority email with
        ⟨carrier?, later⟩
      cases carrier? with
      | some carrier =>
          obtain ⟨visits, visited, made, counted⟩ :=
            inductionHypothesis (taken + 1) bounced later
          refine ⟨⟨authority, some carrier, none⟩ :: visits, ?_, ?_, ?_⟩
          · simp [visited]
          · simp [planRound, Plan.follow, answered, Visit.attempts,
              Visit.failed, made]
          · simp only [planRound, Plan.follow, answered, counted]
            simp [Visit.failed, Nat.add_assoc, Nat.add_comm 1]
      | none =>
          rcases noticed : outbound later home notice with
            ⟨noticeCarrier?, last⟩
          obtain ⟨visits, visited, made, counted⟩ :=
            inductionHypothesis taken (bounced + 1) last
          refine
            ⟨⟨authority, none, noticeCarrier?⟩ :: visits, ?_, ?_, ?_⟩
          · simp [visited]
          · simp [planRound, Plan.follow, answered, noticed,
              Visit.attempts, Visit.failed, made]
          · have oneMore :
                (⟨authority, none, noticeCarrier?⟩ :: visits).countP
                    Visit.failed =
                  visits.countP Visit.failed + 1 :=
              List.countP_cons_of_pos rfl
            simp only [planRound, Plan.follow, answered, noticed, counted]
            simp [oneMore, Visit.failed, Nat.add_assoc, Nat.add_comm 1]

/-- Whose mail can be answered: the sender's address and what serves it. -/
theorem home?_eq_some_iff
    {router : Router}
    (distinct : router.domains.Distinct)
    {email : Email}
    {sender : Address}
    {home : Authority} :
    router.home? email = some (sender, home) ↔
      email.senderAddress? = some sender ∧
        router.domains.Serves sender.domain home := by
  cases written : email.senderAddress? with
  | none =>
      simp [home?, written]
  | some address =>
      simp only [home?, written, Option.map_eq_some_iff,
        distinct.resolve?_eq_some_iff, Prod.mk.injEq, Option.some.injEq]
      constructor
      · rintro ⟨_, serves, rfl, rfl⟩
        exact ⟨rfl, serves⟩
      · rintro ⟨rfl, serves⟩
        exact ⟨home, serves, rfl, rfl⟩

theorem home?_eq_none_iff
    {router : Router}
    (distinct : router.domains.Distinct)
    {email : Email} :
    router.home? email = none ↔
      ∀ sender home, email.senderAddress? = some sender →
        ¬ router.domains.Serves sender.domain home := by
  simp only [Option.eq_none_iff_forall_ne_some, Prod.forall, ne_eq,
    home?_eq_some_iff distinct, not_and]

theorem mem_destinations
    {router : Router}
    (distinct : router.domains.Distinct)
    {email : Email}
    {authority : Authority} :
    authority ∈ router.destinations email ↔
      router.domains.Reaches email.recipients authority := by
  simp only [destinations, mem_ascending, List.mem_filterMap,
    distinct.resolve?_eq_some_iff, DomainTable.Reaches]

/-- Mail has no destination exactly when no recipient's domain is served. -/
theorem destinations_eq_nil_iff
    {router : Router}
    (distinct : router.domains.Distinct)
    {email : Email} :
    router.destinations email = [] ↔
      ∀ authority, ¬ router.domains.Reaches email.recipients authority := by
  simp only [List.eq_nil_iff_forall_not_mem, mem_destinations distinct]

/-- Without a destination, the domains of all recipients are unknown. -/
theorem unknownDomains_of_unreached
    {router : Router}
    {email : Email}
    (unreached :
      ∀ authority, ¬ router.domains.Reaches email.recipients authority) :
    router.unknownDomains email =
      ascending (email.recipients.map Address.domain) := by
  apply congrArg ascending
  rw [List.filter_eq_self]
  intro domain member
  obtain ⟨recipient, listed, rfl⟩ := List.mem_map.1 member
  rw [Option.isNone_iff_eq_none, DomainTable.resolve?_eq_none_iff]
  intro authority serves
  exact unreached authority ⟨recipient, listed, serves⟩

/-- The notice that no domain of the recipients is known. -/
def unroutableNotice
    (router : Router)
    (sender : Address)
    (email : Email) :
    Email :=
  router.bounce sender
    (unknownDomainsSubject (router.unknownDomains email)) email

/-- The notice after a failed attempt. -/
def failureNotice
    (router : Router)
    (sender : Address)
    (email : Email) :
    Email :=
  router.bounce sender failedSubject email

section Cases

variable {router : Router} {email : Email} (state : State)

/-- Mail that cannot be answered is not tried at all. -/
theorem dispatch_of_homeless
    (homeless : router.home? email = none) :
    router.dispatch outbound state email = ⟨.dropped, [], state⟩ := by
  simp [dispatch, plan, homeless, Plan.follow]

variable {sender : Address} {home : Authority}

/-- Without a destination, one notice names the unknown domains. -/
theorem dispatch_of_unroutable
    (answerable : router.home? email = some (sender, home))
    (unroutable : router.destinations email = []) :
    let notice := router.unroutableNotice sender email
    router.dispatch outbound state email =
      ⟨.unroutable (router.unknownDomains email),
        [⟨home, notice, (outbound state home notice).1⟩],
        (outbound state home notice).2⟩ := by
  simp [dispatch, plan, answerable, unroutable, Plan.follow,
    unroutableNotice]

/-- Otherwise the destinations are visited in one round. -/
theorem dispatch_of_routable
    (answerable : router.home? email = some (sender, home))
    (routable : router.destinations email ≠ []) :
    router.dispatch outbound state email =
      (planRound email home (router.failureNotice sender email) 0 0
        (router.destinations email)).follow outbound state := by
  cases destinations : router.destinations email with
  | nil =>
      exact absurd destinations routable
  | cons first rest =>
      simp [dispatch, plan, answerable, destinations, failureNotice]

end Cases

/--
Whatever the outbound answers, these and no other attempts are made: none for
mail that cannot be answered, one notice when no recipient's domain is known,
and otherwise the email once to each authority that serves a recipient, in
ascending order, each failure followed by one notice to the sender's home.
-/
theorem attempts_of_dispatch
    (domains : DomainTable)
    (ip : IpAddress)
    (state : State)
    (email : Email)
    (distinct : domains.Distinct) :
    let dispatch := (atAddress domains ip).dispatch outbound state email
    let notice (sender : Address) (subject : String) : Email :=
      ⟨[sender], "mailer@" ++ ip.text, subject, email.summary⟩
    Made outbound state dispatch.attempts dispatch.state ∧
      ((∀ sender home, email.senderAddress? = some sender →
          ¬ domains.Serves sender.domain home) →
        dispatch.outcome = .dropped ∧ dispatch.attempts = []) ∧
      ∀ sender home,
        email.senderAddress? = some sender →
        domains.Serves sender.domain home →
        ((∀ authority, ¬ domains.Reaches email.recipients authority) →
          ∃ unknown carrier?,
            unknown.Pairwise
                (fun first second => Text.encode first < Text.encode second) ∧
              (∀ domain, domain ∈ unknown ↔
                ∃ recipient ∈ email.recipients,
                  recipient.domain = domain) ∧
              dispatch.outcome = .unroutable unknown ∧
              dispatch.attempts =
                [⟨home,
                  notice sender
                    ("Email couldn't be sent to these unknown domains: " ++
                      String.intercalate ", " unknown),
                  carrier?⟩]) ∧
        ((∃ authority, domains.Reaches email.recipients authority) →
          ∃ visits : List Visit,
            (visits.map Visit.authority).Pairwise Authority.Precedes ∧
              (∀ authority, authority ∈ visits.map Visit.authority ↔
                domains.Reaches email.recipients authority) ∧
              dispatch.attempts =
                visits.flatMap
                  (Visit.attempts email home
                    (notice sender
                      "There was an error transferring this email")) ∧
              dispatch.outcome =
                .delivered (visits.countP (!·.failed))
                  (visits.countP Visit.failed)) := by
  intro dispatch notice
  have reached {authority : Authority} :
      authority ∈ (atAddress domains ip).destinations email ↔
        domains.Reaches email.recipients authority :=
    mem_destinations distinct
  refine ⟨Plan.made_follow outbound _ state, ?_, ?_⟩
  · intro homeless
    have dropped : dispatch = ⟨.dropped, [], state⟩ :=
      dispatch_of_homeless outbound state
        ((home?_eq_none_iff distinct).2 homeless)
    simp [dropped]
  intro sender home written serves
  have answerable :
      (atAddress domains ip).home? email = some (sender, home) :=
    (home?_eq_some_iff distinct).2 ⟨written, serves⟩
  constructor
  · intro unreached
    have unroutable : (atAddress domains ip).destinations email = [] :=
      (destinations_eq_nil_iff distinct).2 unreached
    have single :=
      dispatch_of_unroutable outbound state answerable unroutable
    refine
      ⟨(atAddress domains ip).unknownDomains email,
        (outbound state home
          ((atAddress domains ip).unroutableNotice sender email)).1,
        ?_, ?_, congrArg Dispatch.outcome single,
        congrArg Dispatch.attempts single⟩
    · exact (pairwise_ascending _).imp Text.encode_lt_encode_iff.2
    · intro domain
      rw [unknownDomains_of_unreached unreached, mem_ascending,
        List.mem_map]
  · rintro ⟨authority, reachable⟩
    have routable : (atAddress domains ip).destinations email ≠ [] :=
      List.ne_nil_of_mem (reached.2 reachable)
    obtain ⟨visits, visited, made, counted⟩ :=
      follow_planRound outbound email home
        ((atAddress domains ip).failureNotice sender email) 0 0
        ((atAddress domains ip).destinations email) state
    rw [← dispatch_of_routable outbound state answerable routable]
      at made counted
    refine ⟨visits, ?_, ?_, made, ?_⟩
    · rw [visited]
      exact (pairwise_ascending _).imp Authority.precedes_iff_lt.2
    · intro other
      rw [visited]
      exact reached
    · simpa using counted

/-- An outbound that refuses the first attempt and takes all others. -/
def refusesFirst : Outbound Nat :=
  fun earlier _ _ =>
    (if earlier = 0 then none else some ⟨.loopback, 4000⟩,
      earlier + 1)

theorem attempts_of_dispatch_refusesFirst :
    let domains : DomainTable :=
      .ofList [("a", ⟨"first", 25⟩), ("b", ⟨"second", 25⟩)]
    let email : Email :=
      ⟨[⟨"x", "B"⟩, ⟨"y", "a"⟩, ⟨"z", "c"⟩, ⟨"y", "A"⟩], "s@b", "t", ""⟩
    let dispatch :=
      (atAddress domains (.loopback)).dispatch refusesFirst 0 email
    domains.Distinct ∧
      dispatch.outcome = .delivered 1 1 ∧
      dispatch.attempts.map Attempt.authority =
        [⟨"first", 25⟩, ⟨"second", 25⟩, ⟨"second", 25⟩] ∧
      ∃ visits : List Visit,
        (visits.map Visit.authority).Pairwise Authority.Precedes ∧
          (∀ authority, authority ∈ visits.map Visit.authority ↔
            domains.Reaches email.recipients authority) := by
  intro domains email dispatch
  have distinct : domains.Distinct := by decide
  have home : domains.Serves "b" ⟨"second", 25⟩ :=
    ⟨"b", by decide, by decide⟩
  have written : email.senderAddress? = some ⟨"s", "b"⟩ := by
    decide +kernel
  have reachable : ∃ authority, domains.Reaches email.recipients authority :=
    ⟨⟨"second", 25⟩, ⟨"x", "B"⟩, by decide, "b", by decide, by decide⟩
  obtain ⟨visits, ascend, exactly, _⟩ :=
    ((attempts_of_dispatch refusesFirst domains (.loopback) 0 email
      distinct).2.2 _ _ written home).2 reachable
  exact
    ⟨distinct, by decide +kernel, by decide +kernel,
      visits, ascend, exactly⟩

end Router

end Relay

end Postroom
