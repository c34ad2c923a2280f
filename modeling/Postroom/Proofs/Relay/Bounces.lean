import Postroom.Proofs.Relay.Delivery
import Postroom.Proofs.Relay.Notices
import Postroom.Proofs.Submission.Intake

namespace Postroom.Relay

/-!
# Which bounces can be delivered

A bounce quotes a whole email in its data, and the other parts of that email
may each fill a line of their own, so a bounce may be too long for a line when
the email was not. It never breaks a line. It can be passed on exactly when the
parts of the email together leave room for what is written around them, and the
unknown domains leave room in a subject. The server of the sender then takes it.
-/

open Submission (Speakable Carried Relayable commandsFor submit mailServer)

namespace Router

/-- The subject of the bounces of an email. -/
def bounceSubject
    (router : Router)
    (email : Email) :
    String :=
  match router.destinations email with
  | [] =>
      unknownDomainsSubject (router.unknownDomains email)
  | _ =>
      failedSubject

section Subjects

variable
  {router : Router}
  {email : Email}

theorem bounceSubject_of_unroutable
    (unroutable : router.destinations email = []) :
    router.bounceSubject email =
      unknownDomainsSubject (router.unknownDomains email) := by
  rw [bounceSubject, unroutable]

theorem bounceSubject_of_routable
    (routable : router.destinations email ≠ []) :
    router.bounceSubject email = failedSubject := by
  unfold bounceSubject
  split
  · rename_i unroutable
    exact absurd unroutable routable
  · rfl

end Subjects

section Attempts

variable
  {State : Type}
  {router : Router}
  {email : Email}
  {sender : Address}
  {home : Authority}
  (answerable : router.home? email = some (sender, home))

include answerable

/-- What is tried for an email, if it is not the email, is a bounce for its sender. -/
theorem bounce_of_mem_attempts
    (outbound : Outbound State)
    (state : State)
    {attempt : Attempt}
    (member : attempt ∈ (router.dispatch outbound state email).attempts) :
    attempt.email = email ∨
      attempt.authority = home ∧
        attempt.email =
          router.bounce sender (router.bounceSubject email) email := by
  by_cases unroutable : router.destinations email = []
  · rw [dispatch_of_unroutable outbound state answerable unroutable,
      List.mem_singleton] at member
    subst member
    refine Or.inr ⟨rfl, ?_⟩
    rw [bounceSubject_of_unroutable unroutable, unroutableNotice]
  · obtain ⟨visits, _, made, _⟩ :=
      follow_planRound outbound email home (router.failureNotice sender email)
        0 0 (router.destinations email) state
    rw [dispatch_of_routable outbound state answerable unroutable, made]
      at member
    obtain ⟨visit, _, isAttempt⟩ := List.mem_flatMap.1 member
    refine (Visit.email_of_mem_attempts isAttempt).imp_right ?_
    rintro ⟨isHome, same⟩
    refine ⟨isHome, ?_⟩
    rw [same, failureNotice, bounceSubject_of_routable unroutable]

/-- The sender of an email that can be answered is written as it was read. -/
theorem written_of_home? : email.senderAddress? = some sender := by
  unfold home? at answerable
  split at answerable
  · cases answerable
  · rename_i address written
    obtain ⟨_, _, same⟩ := Option.map_eq_some_iff.1 answerable
    cases same
    exact written

end Attempts

/-- A domain that nobody serves is the domain of a recipient. -/
theorem recipient_of_mem_unknownDomains
    {router : Router}
    {email : Email}
    {domain : String}
    (member : domain ∈ router.unknownDomains email) :
    ∃ recipient ∈ email.recipients, recipient.domain = domain := by
  rw [unknownDomains, mem_ascending, List.mem_filter, List.mem_map] at member
  exact member.1

/-- The subject of a bounce breaks no line. -/
theorem isOneLine_bounceSubject
    (router : Router)
    {email : Email}
    (valid : ∀ recipient ∈ email.recipients, recipient.IsValid) :
    Wire.IsOneLine (router.bounceSubject email) := by
  by_cases unroutable : router.destinations email = []
  · rw [bounceSubject_of_unroutable unroutable]
    exact
      isOneLine_unknownDomainsSubject valid fun _ =>
        recipient_of_mem_unknownDomains
  · rw [bounceSubject_of_routable unroutable]
    decide

/-- Unknown domains leave a subject line 65479 bytes for themselves. -/
theorem fits_unknownDomainsSubject_iff {unknown : List String} :
    Wire.Fits ("subject " ++ unknownDomainsSubject unknown) ↔
      (Text.encode (String.intercalate ", " unknown)).length ≤ 65479 := by
  have keywords :
      (Text.encode "subject ").length = 8 ∧
        (Text.encode
          "Email couldn't be sent to these unknown domains: ").length = 49 := by
    decide
  unfold unknownDomainsSubject
  rw [Wire.Fits, Text.encode_append, Text.encode_append, List.length_append,
    List.length_append, keywords.1, keywords.2, Wire.lineLimit]
  omega

/-- The subject of a bounce fits unless the unknown domains fill it. -/
theorem fits_bounceSubject_iff
    {router : Router}
    {email : Email} :
    Wire.Fits ("subject " ++ router.bounceSubject email) ↔
      (router.destinations email = [] →
        (Text.encode
            (String.intercalate ", " (router.unknownDomains email))).length ≤
          65479) := by
  by_cases unroutable : router.destinations email = []
  · rw [bounceSubject_of_unroutable unroutable,
      fits_unknownDomainsSubject_iff]
    exact ⟨fun short _ => short, fun short => short unroutable⟩
  · have short : Wire.Fits ("subject " ++ failedSubject) := by
      decide
    rw [bounceSubject_of_routable unroutable]
    exact iff_of_true short fun nowhere => absurd nowhere unroutable

end Router

section Sizes

variable {email : Email}

/-- The bytes of the four parts of an email. -/
def size (email : Email) : Nat :=
  (Text.encode email.sender).length +
    (Text.encode email.recipientList).length +
    (Text.encode email.subject).length +
    (Text.encode email.data).length

/-- A summary has 36 bytes beside those of the parts. -/
theorem length_encode_summary (email : Email) :
    (Text.encode email.summary).length = 36 + size email := by
  have marks :
      (Text.encode "[from: ").length = 7 ∧
        (Text.encode " | to: ").length = 7 ∧
        (Text.encode " | subject: ").length = 12 ∧
        (Text.encode " | data: ").length = 9 ∧
        (Text.encode "]").length = 1 := by
    decide
  simp only [Email.summary, Text.encode_append, List.length_append, marks,
    size]
  omega

/-- A notice fits into lines when the parts of its email do so together. -/
theorem carried_notice_iff
    (ip : IpAddress)
    {sender : Address}
    (written : email.senderAddress? = some sender)
    (carried : Carried email)
    {subject : String} :
    Carried (notice ip sender email subject) ↔
      size email ≤ 65495 ∧ Wire.Fits ("subject " ++ subject) := by
  have text : email.sender = sender.text :=
    (Address.ofText?_eq_some_iff.1 written).1
  have recipients :
      Wire.Fits ("to " ++ (notice ip sender email subject).recipientList) := by
    have longer := carried.sender
    have keywords :
        (Text.encode "to ").length ≤ (Text.encode "from ").length := by
      decide
    rw [Wire.Fits, Text.encode_append, List.length_append, text] at longer
    rw [Wire.Fits, Text.encode_append, List.length_append]
    exact Nat.le_trans (Nat.add_le_add_right keywords _) longer
  have mailer :
      Wire.Fits ("from " ++ (notice ip sender email subject).sender) := by
    have short := ip.length_text_le
    have bytes := (Text.length_encode ip.text).2
    have keywords :
        (Text.encode "from ").length + (Text.encode "mailer@").length = 12 := by
      decide
    simp only [notice, Wire.Fits, Text.encode_append, List.length_append,
      Wire.lineLimit]
    omega
  have data :
      Wire.Fits ("data " ++ (notice ip sender email subject).data) ↔
        size email ≤ 65495 := by
    simp only [Submission.fits_data_iff, notice, length_encode_summary,
      Wire.lineLimit]
    omega
  rw [← data]
  exact
    ⟨fun fits => ⟨fits.data, fits.subject⟩,
      fun fits => ⟨recipients, mailer, fits.2, fits.1⟩⟩

end Sizes

/-- A server takes an email that fits when its only recipient is one of its users. -/
theorem submit_of_carried
    {server : MailboxServer}
    {email : Email}
    (speakable : Speakable email)
    (carried : Carried email)
    {recipient : Address}
    (single : email.recipients = [recipient])
    (inside : recipient.isIn server.domain = true)
    (known : server.users.contains recipient.localPart = true) :
    let result := submit mailServer ⟨.start, server.room, true⟩ email
    result.1 = .ok () ∧
      result.2.room.store =
        (server.store.deposit recipient.localPart email).2 := by
  intro result
  have addressed : server.Addressed email.recipients := by
    rw [single]
    exact ⟨recipient, List.mem_singleton_self _, inside⟩
  have knows : server.Knows email.recipients := by
    rw [single]
    intro other listed _
    rw [List.mem_singleton.1 listed]
    exact known
  have addressees :
      MailRoom.addressees server.domain email.recipients =
        [recipient.localPart] := by
    simp [single, MailRoom.addressees, MailRoom.inDomain, inside,
      insertAscending]
  have fits :
      ∀ command ∈ commandsFor email,
        Wire.Fits command.line ∨ Wire.IsOneLine command.line :=
    fun command member =>
      Or.inl (speakable.relayable_iff.2 carried command member).2.1
  rcases Submission.submit_of_speakable server.room speakable fits with
    ⟨later, taken, succeeded, left⟩ | ⟨untaken, _, _⟩
  · obtain ⟨_, _, _, delivered⟩ := MailboxServer.taken_iff.1 taken
    rw [MailboxServer.deliver_room knows, addressees] at delivered
    refine ⟨succeeded, ?_⟩
    rw [left, ← Except.ok.inj delivered]
    rfl
  · exact
      absurd
        (MailboxServer.taken_iff.2
          ⟨carried, addressed, knows, MailboxServer.deliver_room knows⟩)
        (untaken _)

/--
What a relay tries for a queued email besides the email itself are its bounces,
which go to the server of the sender and break no line. A bounce can be passed
on exactly when the parts of the email together leave room for what it writes
around them, and the unknown domains leave room in its subject. Then a server
that knows the sender takes it.
-/
theorem bounces_of_dispatch
    {State : Type}
    (outbound : Outbound State)
    (state : State)
    (domains : DomainTable)
    (ip : IpAddress)
    {stream : List UInt8}
    {email : Email}
    (queued :
      email ∈ (Wire.serve Wire.submission transferRoom stream).2.queue)
    (carried : Carried email)
    {sender : Address}
    {home : Authority}
    (answerable :
      (Router.atAddress domains ip).home? email = some (sender, home)) :
    let router := Router.atAddress domains ip
    let bounce := router.bounce sender (router.bounceSubject email) email
    (∀ attempt ∈ (router.dispatch outbound state email).attempts,
        attempt.email = email ∨
          attempt.authority = home ∧ attempt.email = bounce) ∧
      (∀ command ∈ commandsFor bounce, '\n' ∉ command.line.toList) ∧
      (Relayable bounce ↔
        size email ≤ 65495 ∧
          (router.destinations email = [] →
            (Text.encode
                (String.intercalate ", "
                  (router.unknownDomains email))).length ≤
              65479)) ∧
      (Relayable bounce →
        ∀ server : MailboxServer,
          sender.isIn server.domain = true →
          server.users.contains sender.localPart = true →
          let result := submit mailServer ⟨.start, server.room, true⟩ bounce
          result.1 = .ok () ∧
            result.2.room.store =
              (server.store.deposit sender.localPart bounce).2) := by
  intro router bounce
  have written : email.senderAddress? = some sender :=
    Router.written_of_home? answerable
  have speakable : Speakable email := by
    obtain ⟨taken, left, told⟩ :=
      @Submission.told_of_serve transferRoom rfl stream
    rw [left] at queued
    exact
      (told email queued).speakable fun _ said =>
        (Submission.line_of_mem_untilOverlong said).1
  have speakableBounce : Speakable bounce :=
    speakable_notice ip speakable written
      (router.isOneLine_bounceSubject speakable.valid).isLine
  refine ⟨fun _ => ?_, ?_, ?_, ?_⟩
  · exact Router.bounce_of_mem_attempts answerable outbound state
  · exact fun _ member => (speakableBounce.spoken member).isLine_line.1
  · rw [speakableBounce.relayable_iff, ← Router.fits_bounceSubject_iff]
    exact carried_notice_iff ip written carried
  · intro relayable server inside known
    exact
      submit_of_carried speakableBounce
        (speakableBounce.relayable_iff.1 relayable) rfl inside known

section Lengthy

/-- An email between two domains with as many data as wanted. -/
def lengthy (count : Nat) : Email where
  recipients :=
    [⟨"bob", "gone.org"⟩]
  sender :=
    "ann@home.org"
  subject :=
    "s"
  data :=
    String.ofList (List.replicate count 'x')

/-- A router that knows both domains. -/
abbrev lengthyRouter : Router :=
  Router.atAddress
    (.ofList
      [("home.org", ⟨"127.0.0.1", 2001⟩), ("gone.org", ⟨"127.0.0.1", 2002⟩)])
    .loopback

/-- An outbound that carries nothing. -/
def carriesNothing : Outbound Unit :=
  fun _ _ _ => (none, ())

/-- What the relay tells the sender of the email. -/
def lengthyBounce (count : Nat) : Email :=
  lengthyRouter.bounce ⟨"ann", "home.org"⟩ failedSubject (lengthy count)

theorem submittable_lengthy (count : Nat) :
    Submission.Submittable (lengthy count) where
  addressed :=
    List.cons_ne_nil _ _
  valid := by
    change ∀ recipient ∈ [(⟨"bob", "gone.org"⟩ : Address)], recipient.IsValid
    decide
  sender :=
    (by decide : Wire.IsOneLine "ann@home.org")
  subject :=
    (by decide : Wire.IsOneLine "s")
  data :=
    Wire.isOneLine_replicate (by decide) (by decide) count

theorem length_encode_lengthy_data (count : Nat) :
    (Text.encode (lengthy count).data).length = count := by
  have character : (String.utf8EncodeChar 'x').length = 1 := by
    decide
  rw [lengthy, Text.length_encode_replicate, character, Nat.mul_one]

theorem carried_lengthy
    {count : Nat}
    (fits : 5 + count ≤ Wire.lineLimit) :
    Carried (lengthy count) where
  recipients :=
    (by decide :
      Wire.Fits ("to " ++ Email.joinAddresses [⟨"bob", "gone.org"⟩]))
  sender :=
    (by decide : Wire.Fits ("from " ++ "ann@home.org"))
  subject :=
    (by decide : Wire.Fits ("subject " ++ "s"))
  data := by
    rw [Submission.fits_data_iff, length_encode_lengthy_data]
    exact fits

theorem size_lengthy (count : Nat) : size (lengthy count) = 25 + count := by
  have parts :
      (Text.encode "ann@home.org").length +
          (Text.encode (Email.joinAddresses [⟨"bob", "gone.org"⟩])).length +
          (Text.encode "s").length =
        25 := by
    decide
  rw [size, length_encode_lengthy_data]
  exact congrArg (· + count) parts

theorem home?_lengthy (count : Nat) :
    lengthyRouter.home? (lengthy count) =
      some (⟨"ann", "home.org"⟩, ⟨"127.0.0.1", 2001⟩) := by
  have written :
      (lengthy count).senderAddress? = some ⟨"ann", "home.org"⟩ :=
    (by decide :
      Address.ofText? "ann@home.org" = some ⟨"ann", "home.org"⟩)
  have resolved :
      DomainTable.resolve? lengthyRouter.domains "home.org" =
        some ⟨"127.0.0.1", 2001⟩ := by
    decide
  simp [Router.home?, written, resolved]

theorem destinations_lengthy (count : Nat) :
    lengthyRouter.destinations (lengthy count) = [⟨"127.0.0.1", 2002⟩] :=
  (by decide :
    ascending
        ([(⟨"bob", "gone.org"⟩ : Address)].filterMap
          (DomainTable.resolve? lengthyRouter.domains ·.domain)) =
      [⟨"127.0.0.1", 2002⟩])

/-- When nothing is carried, the email is tried once, and then its bounce. -/
theorem attempts_lengthy (count : Nat) :
    ((lengthyRouter.dispatch carriesNothing () (lengthy count)).attempts.map
        Attempt.email) =
      [lengthy count, lengthyBounce count] := by
  have routable : lengthyRouter.destinations (lengthy count) ≠ [] := by
    rw [destinations_lengthy]
    exact List.cons_ne_nil _ _
  rw [Router.dispatch_of_routable carriesNothing () (home?_lengthy count)
    routable, destinations_lengthy]
  rfl

theorem submittable_lengthyBounce (count : Nat) :
    Submission.Submittable (lengthyBounce count) :=
  submittable_notice .loopback (submittable_lengthy count)
    (Router.written_of_home? (home?_lengthy count))
    (by decide : Wire.IsOneLine failedSubject)

/-- The bounce has 61 bytes of data more than the email. -/
theorem length_encode_lengthyBounce_data (count : Nat) :
    (Text.encode (lengthyBounce count).data).length = 61 + count := by
  change (Text.encode (lengthy count).summary).length = 61 + count
  rw [length_encode_summary, size_lengthy]
  omega

/-- A short email is told back to its sender, whose server keeps the bounce. -/
theorem bounces_of_dispatch_lengthy :
    let email := lengthy 2
    let bounce := lengthyBounce 2
    let stream :=
      ((commandsFor email).map Submission.Command.line).flatMap Wire.sendLine
    let server : MailboxServer :=
      ⟨⟨"127.0.0.1", 2001⟩, "home.org", .ofList [("ann", "pw")], .empty⟩
    let result := submit mailServer ⟨.start, server.room, true⟩ bounce
    email ∈ (Wire.serve Wire.submission transferRoom stream).2.queue ∧
      Carried email ∧
      lengthyRouter.home? email =
        some (⟨"ann", "home.org"⟩, ⟨"127.0.0.1", 2001⟩) ∧
      (lengthyRouter.dispatch carriesNothing () email).attempts.map
          Attempt.email =
        [email, bounce] ∧
      Relayable bounce ∧
      result.1 = .ok () ∧
      result.2.room.store = (server.store.deposit "ann" bounce).2 := by
  intro email bounce stream server
  have carried : Carried email :=
    carried_lengthy (by decide)
  have queued :
      email ∈ (Wire.serve Wire.submission transferRoom stream).2.queue := by
    rw [Submission.queue_serve_commandsFor
      (submittable_lengthy 2).speakable carried rfl]
    exact List.mem_append_right _ (List.mem_singleton_self _)
  have answerable := home?_lengthy 2
  have routable : lengthyRouter.destinations email ≠ [] := by
    simp [email, destinations_lengthy]
  obtain ⟨_, _, relayable, kept⟩ :=
    bounces_of_dispatch carriesNothing () _ .loopback queued carried answerable
  rw [Router.bounceSubject_of_routable routable] at relayable kept
  have passes : Relayable bounce :=
    relayable.2
      ⟨by rw [size_lengthy]; decide, fun nowhere => absurd nowhere routable⟩
  exact
    ⟨queued, carried, answerable, attempts_lengthy 2, passes,
      kept passes server (by decide +kernel) (by decide +kernel)⟩

/-- The data of the bounce fit on no line when those of the email left no room. -/
theorem not_fits_lengthyBounce_data
    {count : Nat}
    (long : 65470 < count) :
    ¬ Wire.Fits ("data " ++ (lengthyBounce count).data) := by
  rw [Submission.fits_data_iff, length_encode_lengthyBounce_data,
    Wire.lineLimit]
  omega

/-- No server takes such a bounce. -/
theorem submit_lengthyBounce
    {count : Nat}
    (long : 65470 < count)
    (room : MailRoom) :
    let result := submit mailServer ⟨.start, room, true⟩ (lengthyBounce count)
    result.1 ≠ .ok () ∧ result.2.room = room := by
  intro result
  rcases Submission.submit_mailServer room (submittable_lengthyBounce count)
    with ⟨later, taken, _, _⟩ | ⟨_, ⟨error, failed⟩, left⟩
  · exact absurd taken.carried.data (not_fits_lengthyBounce_data long)
  · have failed : result.1 = .error error :=
      failed
    exact ⟨by simp [failed], left⟩

/-- No line carries the bounce of an email whose data fill a line, so nobody takes it. -/
theorem bounce_outgrows_line :
    let email := lengthy 65531
    let bounce := lengthyBounce 65531
    let stream :=
      ((commandsFor email).map Submission.Command.line).flatMap Wire.sendLine
    (Wire.serve Wire.submission transferRoom stream).2.queue = [email] ∧
      Carried email ∧
      lengthyRouter.home? email =
        some (⟨"ann", "home.org"⟩, ⟨"127.0.0.1", 2001⟩) ∧
      (lengthyRouter.dispatch carriesNothing () email).attempts.map
          Attempt.email =
        [email, bounce] ∧
      ¬ Wire.Fits ("data " ++ bounce.data) ∧
      ∀ room : MailRoom,
        let result := submit mailServer ⟨.start, room, true⟩ bounce
        result.1 ≠ .ok () ∧ result.2.room = room := by
  intro email bounce stream
  have carried : Carried email :=
    carried_lengthy (by decide)
  exact
    ⟨Submission.queue_serve_commandsFor
        (submittable_lengthy _).speakable carried rfl,
      carried, home?_lengthy _, attempts_lengthy _,
      not_fits_lengthyBounce_data (by decide),
      submit_lengthyBounce (by decide)⟩

end Lengthy

end Postroom.Relay
