import Postroom.Email
import Postroom.Submission.Error

namespace Postroom.Submission

/-!
# Drafts

A draft gathers the parts of one email. It starts with a subject of its own,
so only the other parts can be forgotten by a client.
-/

/-- An email whose parts may still be missing. -/
structure Draft where
  recipients : Option (List Address)
  sender : Option String
  subject : Option String
  data : Option String
  deriving Repr, DecidableEq

namespace Draft

/-- The draft of a new email. -/
def fresh : Draft where
  recipients :=
    none
  sender :=
    none
  subject :=
    some emptySubject
  data :=
    none

/-- The first part that is missing. -/
def missing? (draft : Draft) : Option DraftField :=
  if draft.recipients.isNone then
    some .recipients
  else if draft.sender.isNone then
    some .sender
  else if draft.subject.isNone then
    some .subject
  else if draft.data.isNone then
    some .data
  else
    none

/-- The email of a draft, or the first part that it lacks. -/
def email (draft : Draft) : Except DraftField Email :=
  match draft.recipients, draft.sender, draft.subject, draft.data with
  | some recipients, some sender, some subject, some data =>
      .ok ⟨recipients, sender, subject, data⟩
  | none, _, _, _ =>
      .error .recipients
  | some _, none, _, _ =>
      .error .sender
  | some _, some _, none, _ =>
      .error .subject
  | some _, some _, some _, none =>
      .error .data

/-- A draft lacks a part exactly when no email can be made of it. -/
theorem email_eq_error_iff
    {draft : Draft}
    {field : DraftField} :
    draft.email = .error field ↔ draft.missing? = some field := by
  obtain ⟨recipients, sender, subject, data⟩ := draft
  cases recipients <;> cases sender <;> cases subject <;> cases data <;>
    simp [email, missing?]

end Draft

end Postroom.Submission
