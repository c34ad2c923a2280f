import Postroom.Proofs.Submission.Dialogue

namespace Postroom.Submission

/-!
# Clients and servers agree on what was submitted

A client that submits an email to a mail server succeeds exactly when its
lines fit and the server's mail room accepts the recipients and takes the
email. The room then took this one email, and nothing in all other cases.
-/

/-- Every line that carries a part of the email fits. -/
structure Carried (email : Email) : Prop where
  recipients : Wire.Fits ("to " ++ email.recipientList)
  sender : Wire.Fits ("from " ++ email.sender)
  subject : Wire.Fits ("subject " ++ email.subject)
  data : Wire.Fits ("data " ++ email.data)

/-- A submitted email arrives, and its delivery leaves a mail room behind. -/
structure Taken
    (room : MailRoom)
    (email : Email)
    (later : MailRoom) : Prop where
  carried : Carried email
  accepted : ∃ count, room.accept email.recipients = .ok count
  delivered : room.deliver email = .ok later

/-- The session of a client behind its first `begin`. -/
def opened : Session :=
  ⟨.collecting, .fresh⟩

section Commands

variable (room : MailRoom) {email : Email}

/-- The commands that submit an email go through exactly when it is taken. -/
theorem performAll_commandsFor_eq_some_iff
    (speakable : Speakable email)
    {last : Session}
    {later : MailRoom} :
    performAll .start room (commandsFor email) = (some last, later) ↔
      last = opened ∧ Taken room email later := by
  have read :
      readRecipients email.recipientList = .ok email.recipients :=
    readRecipients_joinAddresses speakable.valid speakable.addressed
  simp only [commandsFor, performAll_cons_eq_some_iff]
  constructor
  · rintro
      ⟨_, _, _, _, begun,
        recipients, _, _, _, addressed,
        sender, _, _, _, signed,
        subject, _, _, _, titled,
        data, _, _, _, filled,
        _, _, _, _, sent, done⟩
    cases begun
    cases addressed with
    | addressed phase listed accepted =>
        cases signed
        cases titled
        cases filled
        cases sent with
        | sent phase built delivered =>
            obtain rfl := Except.ok.inj (read.symm.trans listed)
            obtain rfl := Except.ok.inj built
            cases done
            exact
              ⟨rfl, ⟨recipients, sender, subject, data⟩,
                ⟨_, accepted⟩, delivered⟩
  · rintro ⟨rfl, carried, ⟨count, accepted⟩, delivered⟩
    exact
      ⟨by decide, _, _, _, .begun rfl,
        carried.recipients, _, _, _, .addressed rfl read accepted,
        carried.sender, _, _, _, .signed _ rfl,
        carried.subject, _, _, _, .titled _ rfl,
        carried.data, _, _, _, .filled _ rfl,
        by decide, _, _, _, .sent rfl rfl delivered, rfl⟩

/--
A client submits an email to a mail server exactly when it is taken.

A long line must not have a carriage return, at which a reader might stop.
-/
theorem submit_of_speakable
    (speakable : Speakable email)
    (short :
      ∀ command ∈ commandsFor email,
        Wire.Fits command.line ∨ Wire.IsOneLine command.line) :
    let result := submit mailServer ⟨.start, room, true⟩ email
    (∃ later,
      Taken room email later ∧ result.1 = .ok () ∧
        result.2.room = later) ∨
      (∀ later, ¬ Taken room email later) ∧
        (∃ error, result.1 = .error error) ∧ result.2.room = room := by
  have spoken : ∀ command ∈ commandsFor email, Spoken command :=
    fun _ => speakable.spoken
  have dialogue := askAll_waiting .start room spoken short
  rcases performed : performAll .start room (commandsFor email) with
    ⟨_ | last, later⟩
  · rw [performed] at dialogue
    rcases dialogue with ⟨⟨error, failed⟩, left⟩
    have untaken (other : MailRoom) : ¬ Taken room email other := by
      intro taken
      have goesThrough :=
        (performAll_commandsFor_eq_some_iff room speakable).2
          ⟨rfl, taken⟩
      rw [performed] at goesThrough
      cases goesThrough
    have same : later = room :=
      room_eq_of_performAll_eq_none (by simp [commandsFor]) performed
    rcases asked :
        askAll mailServer (waiting .start room) (commandsFor email) with
      ⟨answer, next⟩
    rw [asked] at failed left
    simp only at failed left
    refine Or.inr ⟨untaken, ⟨error, ?_⟩, ?_⟩
    · simp [submit, connect_mailServer, asked, failed]
    · simp [submit, connect_mailServer, asked, failed, left, same]
  · rw [performed] at dialogue
    obtain ⟨rfl, taken⟩ :=
      (performAll_commandsFor_eq_some_iff room speakable).1 performed
    have asked :
        askAll mailServer (waiting .start room) (commandsFor email) =
          (.ok (), waiting opened later) :=
      dialogue
    have isLine : Wire.IsLine Command.quit.line := by
      decide
    have left :=
      writeLine_waiting opened later isLine (by decide)
    refine Or.inl ⟨later, taken, ?_, ?_⟩
    · simp [submit, connect_mailServer, asked]
    · simp only [submit, connect_mailServer, asked, quit, left]
      rfl

/-- An email without line breaks is submitted exactly when it is taken. -/
theorem submit_mailServer
    (submittable : Submittable email) :
    let result := submit mailServer ⟨.start, room, true⟩ email
    (∃ later,
      Taken room email later ∧ result.1 = .ok () ∧
        result.2.room = later) ∨
      (∀ later, ¬ Taken room email later) ∧
        (∃ error, result.1 = .error error) ∧ result.2.room = room :=
  submit_of_speakable room submittable.speakable
    fun _ member => Or.inr (submittable.isOneLine_line member)

/--
The client succeeds exactly when every line fits, the room accepts the
recipients and takes the email; then the room took this email once, and after
a failure it is what it was.
-/
theorem submit_agrees
    (submittable : Submittable email) :
    let result := submit mailServer ⟨.start, room, true⟩ email
    (result.1 = .ok () ↔
      Carried email ∧
        (∃ count, room.accept email.recipients = .ok count) ∧
        ∃ later, room.deliver email = .ok later) ∧
      (result.1 = .ok () → room.deliver email = .ok result.2.room) ∧
      (result.1 ≠ .ok () → result.2.room = room) := by
  intro result
  rcases submit_mailServer room submittable with
    ⟨later, taken, succeeded, left⟩ | ⟨untaken, ⟨error, failed⟩, left⟩
  · refine ⟨⟨fun _ => ?_, fun _ => succeeded⟩, fun _ => ?_, fun failed => ?_⟩
    · exact ⟨taken.carried, taken.accepted, later, taken.delivered⟩
    · exact left ▸ taken.delivered
    · exact absurd succeeded failed
  · have failed : result.1 = .error error :=
      failed
    refine ⟨⟨fun succeeded => ?_, ?_⟩, fun succeeded => ?_, fun _ => left⟩
    · simp [failed] at succeeded
    · rintro ⟨carried, accepted, later, delivered⟩
      exact absurd ⟨carried, accepted, delivered⟩ (untaken later)
    · simp [failed] at succeeded

end Commands

/-- Two spellings of one domain and a doubled recipient make two copies. -/
theorem submit_agrees_doubled :
    let room : MailRoom :=
      ⟨.mailbox "d", .ofList [("a", "x"), ("b", "y")], .empty, []⟩
    let email : Email :=
      ⟨[⟨"b", "d"⟩, ⟨"a", "D"⟩, ⟨"b", "D"⟩, ⟨"c", "e"⟩], "", " s", ""⟩
    let result := submit mailServer ⟨.start, room, true⟩ email
    Submittable email ∧ result.1 = .ok () ∧
      room.deliver email = .ok result.2.room := by
  intro room email result
  have submittable : Submittable email :=
    ⟨by decide, by decide +kernel, by decide, by decide, by decide⟩
  have carried : Carried email :=
    ⟨by decide, by decide, by decide, by decide⟩
  have agreement := submit_agrees room submittable
  have succeeded : result.1 = .ok () :=
    agreement.1.2 ⟨carried, ⟨3, by rfl⟩, _, rfl⟩
  exact ⟨submittable, succeeded, agreement.2.1 succeeded⟩

end Postroom.Submission
