import Postroom.Proofs.IpAddress
import Postroom.Proofs.Submission.Wording
import Postroom.Relay.Dispatch

namespace Postroom

/-!
# Notices can be submitted

A notice quotes the whole email on one line, so it is longer than the email and
never equal to it, and it breaks no line when the email does not.
-/

namespace Relay

/-- What the relay of a host writes to the sender of an email. -/
def notice
    (ip : IpAddress)
    (sender : Address)
    (email : Email)
    (subject : String) :
    Email :=
  ⟨[sender], "mailer@" ++ ip.text, subject, email.summary⟩

theorem atAddress_bounce
    (domains : DomainTable)
    (ip : IpAddress)
    (sender : Address)
    (email : Email)
    (subject : String) :
    (Router.atAddress domains ip).bounce sender subject email =
      notice ip sender email subject :=
  rfl

variable
  (ip : IpAddress)
  {email : Email}

/-- A notice quotes more than the data of its email. -/
theorem notice_ne
    (sender : Address)
    (subject : String) :
    notice ip sender email subject ≠ email := by
  intro same
  have data : email.summary = email.data :=
    congrArg Email.data same
  have lengths := congrArg String.length data
  simp only [Email.summary, String.length_append] at lengths
  have bracket : "[from: ".length = 7 := by
    decide
  omega

/-- The sender of an email, where it is an address, is one that can be read. -/
theorem isValid_of_senderAddress?
    {sender : Address}
    (written : email.senderAddress? = some sender) :
    ∀ recipient ∈ [sender], recipient.IsValid := by
  intro recipient member
  rw [List.mem_singleton.1 member, Address.isValid_iff]
  exact (Address.ofText?_eq_some_iff.1 written).2

/-- A notice can be put into words when its email can. -/
theorem speakable_notice
    (speakable : Submission.Speakable email)
    {sender : Address}
    (written : email.senderAddress? = some sender)
    {subject : String}
    (isLine : Wire.IsLine subject) :
    Submission.Speakable (notice ip sender email subject) where
  addressed :=
    List.cons_ne_nil sender []
  valid :=
    isValid_of_senderAddress? written
  sender :=
    Wire.IsLine.append (by decide) ip.isOneLine_text.isLine
  subject :=
    isLine
  data := by
    have recipients : Wire.IsLine email.recipientList :=
      (Submission.isOneLine_joinAddresses speakable.valid).isLine
    simp only [notice, Email.summary]
    refine Wire.IsLine.append ?_ (by decide)
    refine Wire.IsLine.append ?_ speakable.data
    refine Wire.IsLine.append ?_ (by decide)
    refine Wire.IsLine.append ?_ speakable.subject
    refine Wire.IsLine.append ?_ (by decide)
    refine Wire.IsLine.append ?_ recipients
    refine Wire.IsLine.append ?_ (by decide)
    exact Wire.IsLine.append (by decide) speakable.sender

/-- A notice can be submitted when its email can. -/
theorem submittable_notice
    (submittable : Submission.Submittable email)
    {sender : Address}
    (written : email.senderAddress? = some sender)
    {subject : String}
    (oneLine : Wire.IsOneLine subject) :
    Submission.Submittable (notice ip sender email subject) where
  addressed :=
    List.cons_ne_nil sender []
  valid :=
    isValid_of_senderAddress? written
  sender :=
    Wire.isOneLine_append.2 ⟨by decide, ip.isOneLine_text⟩
  subject :=
    oneLine
  data := by
    have recipients : Wire.IsOneLine email.recipientList :=
      Submission.isOneLine_joinAddresses submittable.valid
    simp only [notice, Email.summary, Wire.isOneLine_append]
    exact
      ⟨⟨⟨⟨⟨⟨⟨⟨by decide, submittable.sender⟩, by decide⟩, recipients⟩,
        by decide⟩, submittable.subject⟩, by decide⟩, submittable.data⟩,
        by decide⟩

/-- Domains of valid recipients are named on one line. -/
theorem isOneLine_unknownDomainsSubject
    (valid : ∀ recipient ∈ email.recipients, recipient.IsValid)
    {names : List String}
    (unknown :
      ∀ domain ∈ names, ∃ recipient ∈ email.recipients,
        recipient.domain = domain) :
    Wire.IsOneLine (unknownDomainsSubject names) := by
  refine Wire.isOneLine_append.2
    ⟨by decide, Wire.isOneLine_intercalate (by decide) ?_⟩
  intro domain member
  obtain ⟨recipient, isRecipient, rfl⟩ := unknown domain member
  exact (valid recipient isRecipient).isOneLine_domain

end Relay

end Postroom
