import Postroom.Address

namespace Postroom

/-!
# Emails

An email is always complete. Drafts with missing parts live in a submission
session only.
-/

/-- The subject of an email whose sender gave none. -/
def emptySubject : String :=
  "(empty subject)"

/-- A complete email. -/
structure Email where
  recipients : List Address
  /-- The sender as the submitting client wrote it. -/
  sender : String
  subject : String
  data : String
  deriving Repr, DecidableEq

namespace Email

/-- Written addresses, joined with commas. -/
def joinAddresses (addresses : List Address) : String :=
  String.intercalate "," (addresses.map Address.text)

/-- The recipients as one line carries them. -/
def recipientList (email : Email) : String :=
  joinAddresses email.recipients

/-- The sender as an address, where it is one. -/
def senderAddress? (email : Email) : Option Address :=
  Address.ofText? email.sender

/-- Whether some recipient is written exactly so. -/
def hasRecipient
    (email : Email)
    (recipient : String) :
    Bool :=
  email.recipients.any (·.text == recipient)

/-- The whole email on one line, as a bounce quotes it. -/
def summary (email : Email) : String :=
  "[from: " ++ email.sender ++
    " | to: " ++ email.recipientList ++
    " | subject: " ++ email.subject ++
    " | data: " ++ email.data ++ "]"

end Email

end Postroom
