import Postroom.Proofs.Address
import Postroom.Proofs.Submission.Rules
import Postroom.Proofs.Text.Pieces
import Postroom.Submission.Client

namespace Postroom.Submission

/-!
# Commands are understood as they are meant

What a client writes for a command is read by a server as that command, with
the argument untouched, and a written recipient list is read as the recipients
that were written.
-/

namespace Command

/-- The first space ends a keyword, whatever the argument behind it is. -/
theorem cutFirst?_keyword
    (keyword argument : String)
    (plain : ' ' ∉ keyword.toList) :
    Text.cutFirst? ' ' (keyword ++ " " ++ argument) =
      some (keyword, argument) :=
  Text.cutFirst?_eq_some_iff.2 ⟨rfl, plain⟩

/-- The line of a command denotes that command. -/
theorem ofLine_line
    {command : Command}
    (known : ∀ line, command ≠ .unknown line) :
    ofLine command.line = command := by
  -- The space belongs to the keyword in what is written, not in what is read.
  match command, known with
  | .begin, _ | .send, _ | .quit, _ =>
      rfl
  | .to list, _ =>
      have spelled : "to " ++ list = "to" ++ " " ++ list :=
        rfl
      simp only [line, spelled, ofLine,
        cutFirst?_keyword "to" list (by decide)]
  | .sender text, _ =>
      have spelled : "from " ++ text = "from" ++ " " ++ text :=
        rfl
      simp only [line, spelled, ofLine,
        cutFirst?_keyword "from" text (by decide)]
  | .subject text, _ =>
      have spelled : "subject " ++ text = "subject" ++ " " ++ text :=
        rfl
      simp only [line, spelled, ofLine,
        cutFirst?_keyword "subject" text (by decide)]
  | .data text, _ =>
      have spelled : "data " ++ text = "data" ++ " " ++ text :=
        rfl
      simp only [line, spelled, ofLine,
        cutFirst?_keyword "data" text (by decide)]
  | .unknown line, known =>
      exact absurd rfl (known line)

/-- A recipient list reaches the server as it was written. -/
@[simp]
theorem ofLine_to (list : String) : ofLine ("to " ++ list) = .to list :=
  @ofLine_line (.to list) (by simp)

/-- Every line is the line of the command that it denotes. -/
theorem line_ofLine (text : String) :
    (ofLine text).line = text := by
  have rejoined
      {keyword argument : String}
      (cut : Text.cutFirst? ' ' text = some (keyword, argument)) :
      keyword ++ " " ++ argument = text :=
    (Text.cutFirst?_eq_some_iff.1 cut).1.symm
  unfold ofLine
  split
  · unfold ofKeyword
    split <;> rfl
  · exact rejoined ‹_›
  · exact rejoined ‹_›
  · exact rejoined ‹_›
  · exact rejoined ‹_›
  · rfl

/-- A line that denotes a command is the line of that command. -/
theorem eq_line_of_ofLine
    {text : String}
    {command : Command}
    (read : ofLine text = command) :
    text = command.line := by
  rw [← read, line_ofLine]

/-- A command is denoted by its line and by no other. -/
theorem ofLine_eq_iff
    {text : String}
    {command : Command}
    (known : ∀ other, command ≠ .unknown other) :
    ofLine text = command ↔ text = command.line := by
  constructor
  · exact eq_line_of_ofLine
  · rintro rfl
    exact ofLine_line known

/-- A line is no command exactly when it is the line of none. -/
theorem ofLine_eq_unknown_iff {text other : String} :
    ofLine text = .unknown other ↔
      other = text ∧
        ∀ command : Command,
          (∀ line, command ≠ .unknown line) → command.line ≠ text := by
  constructor
  · intro read
    refine ⟨(eq_line_of_ofLine read).symm, ?_⟩
    rintro command known rfl
    rw [ofLine_line known] at read
    exact known other read
  · rintro ⟨rfl, none⟩
    by_contra differs
    refine none (ofLine other) ?_ (line_ofLine other)
    intro line read
    have same : other = line :=
      eq_line_of_ofLine read
    rw [same] at differs read
    exact differs read

/-- Only its keyword denotes the command that sends a draft. -/
theorem ofLine_eq_send_iff {text : String} :
    ofLine text = .send ↔ text = "send" :=
  ofLine_eq_iff (by simp)

end Command

/-- A command that succeeds is answered by its rule when its line is said. -/
theorem Succeeds.process_line
    {session next : Session}
    {room later : MailRoom}
    {command : Command}
    {reply : Reply}
    (succeeds : Succeeds session room command reply next later) :
    session.process room command.line = ⟨.ok reply, next, later⟩ := by
  have known (line : String) : command ≠ .unknown line := by
    rintro rfl
    cases succeeds
  rw [Session.process, Command.ofLine_line known,
    Session.perform_eq_ok_iff.2 succeeds]

/-- What a client may write when it submits an email. -/
inductive Spoken : Command → Prop where
  | begun :
      Spoken .begin
  | addressed
      {recipients : List Address}
      (valid : ∀ recipient ∈ recipients, recipient.IsValid)
      (addressed : recipients ≠ []) :
      Spoken (.to (Email.joinAddresses recipients))
  | signed
      {text : String}
      (isLine : Wire.IsLine text) :
      Spoken (.sender text)
  | titled
      {text : String}
      (isLine : Wire.IsLine text) :
      Spoken (.subject text)
  | filled
      {text : String}
      (isLine : Wire.IsLine text) :
      Spoken (.data text)
  | sent :
      Spoken .send

/-- A recipient list is at least as long as it has recipients. -/
theorem length_le_length_joinAddresses (recipients : List Address) :
    recipients.length ≤
      (Text.encode (Email.joinAddresses recipients)).length := by
  have characters :
      recipients.length ≤
        (Email.joinAddresses recipients).toList.length := by
    unfold Email.joinAddresses
    induction recipients with
    | nil =>
        exact Nat.zero_le _
    | cons first rest inductionHypothesis =>
        have written : 1 ≤ first.text.toList.length := by
          simp [Address.text]
          omega
        by_cases last : rest = []
        · subst last
          simpa using written
        · have others : rest.map Address.text ≠ [] := by
            simpa using last
          rw [List.map_cons, String.intercalate_cons_of_ne_nil others]
          simp only [String.toList_append, List.length_append,
            List.length_cons]
          omega
  exact Nat.le_trans characters (Text.length_encode _).1

/-- A piece is read as an address when it is that address but for blanks. -/
theorem readRecipient_eq_ok_iff
    {piece : String}
    {recipient : Address} :
    readRecipient piece = .ok recipient ↔
      Text.trim piece = recipient.text ∧ recipient.IsValid := by
  rw [Address.isValid_iff, ← Address.ofText?_eq_some_iff, readRecipient]
  cases Address.ofText? (Text.trim piece) <;> simp

/-- A recipient list is read piece by piece. -/
theorem readRecipients_eq_ok_iff
    {list : String}
    {recipients : List Address} :
    readRecipients list = .ok recipients ↔
      (Text.pieces ',' list).map Text.trim =
          recipients.map Address.text ∧
        ∀ recipient ∈ recipients, recipient.IsValid := by
  unfold readRecipients
  induction Text.pieces ',' list generalizing recipients with
  | nil =>
      cases recipients <;> simp [pure, Except.pure]
  | cons piece rest inductionHypothesis =>
      simp only [List.mapM_cons, bind_eq_ok_iff, pure, Except.pure,
        Except.ok.injEq, readRecipient_eq_ok_iff, inductionHypothesis]
      constructor
      · rintro ⟨first, ⟨trimmed, valid⟩, others, ⟨shape, allValid⟩, rfl⟩
        exact
          ⟨by simp [trimmed, shape],
            List.forall_mem_cons.2 ⟨valid, allValid⟩⟩
      · rintro ⟨shape, allValid⟩
        cases recipients with
        | nil =>
            cases shape
        | cons first others =>
            obtain ⟨trimmed, shape⟩ := List.cons.inj shape
            obtain ⟨valid, othersValid⟩ := List.forall_mem_cons.1 allValid
            exact
              ⟨first, ⟨trimmed, valid⟩, others, ⟨shape, othersValid⟩, rfl⟩

/-- A recipient list is refused for the first of its pieces that is no address. -/
theorem readRecipients_eq_error_iff
    {list : String}
    {failure : Error} :
    readRecipients list = .error failure ↔
      ∃ before piece behind,
        (Text.pieces ',' list).map Text.trim =
            before ++ piece :: behind ∧
          (∀ text ∈ before, Address.ofText? text ≠ none) ∧
          Address.ofText? piece = none ∧
          failure = .invalidAddress piece := by
  unfold readRecipients
  induction Text.pieces ',' list with
  | nil =>
      simp [pure, Except.pure]
  | cons first rest inductionHypothesis =>
      simp only [List.mapM_cons, bind_eq_error_iff, inductionHypothesis, pure,
        Except.pure, reduceCtorEq, and_false, exists_false, or_false,
        List.map_cons]
      cases read : Address.ofText? (Text.trim first) with
      | none =>
          have refused :
              readRecipient first =
                .error (.invalidAddress (Text.trim first)) := by
            rw [readRecipient, read]
          simp only [refused, Except.error.injEq, reduceCtorEq, false_and,
            exists_false, or_false]
          constructor
          · rintro rfl
            exact ⟨[], _, _, rfl, by simp, read, rfl⟩
          · rintro ⟨before, piece, behind, shape, valid, _, rfl⟩
            cases before with
            | nil =>
                rw [(List.cons.inj shape).1]
            | cons head others =>
                rw [← (List.cons.inj shape).1] at valid
                exact absurd read (valid _ List.mem_cons_self)
      | some recipient =>
          have taken : readRecipient first = .ok recipient := by
            rw [readRecipient, read]
          simp only [taken, reduceCtorEq, Except.ok.injEq, exists_eq_left',
            false_or]
          constructor
          · rintro ⟨before, piece, behind, shape, valid, invalid, rfl⟩
            exact
              ⟨Text.trim first :: before, piece, behind, by rw [shape]; rfl,
                List.forall_mem_cons.2 ⟨by simp [read], valid⟩, invalid, rfl⟩
          · rintro ⟨before, piece, behind, shape, valid, invalid, rfl⟩
            cases before with
            | nil =>
                rw [← (List.cons.inj shape).1, read] at invalid
                cases invalid
            | cons head others =>
                exact
                  ⟨others, piece, behind, (List.cons.inj shape).2,
                    (List.forall_mem_cons.1 valid).2, invalid, rfl⟩

/-- A recipient list that is read names somebody. -/
theorem ne_nil_of_readRecipients
    {list : String}
    {recipients : List Address}
    (read : readRecipients list = .ok recipients) :
    recipients ≠ [] := by
  rintro rfl
  obtain ⟨shape, _⟩ := readRecipients_eq_ok_iff.1 read
  simp [Text.pieces, Text.piecesBy] at shape

/-- Nothing that begins with an at sign is read as a list of addresses. -/
theorem ne_empty_of_readRecipients
    {localPart domain : String}
    {recipients : List Address}
    (read : readRecipients (localPart ++ "@" ++ domain) = .ok recipients) :
    localPart ≠ "" := by
  rintro rfl
  obtain ⟨shape, valid⟩ := readRecipients_eq_ok_iff.1 read
  obtain ⟨first, rest, cut, starts⟩ :=
    Text.exists_pieces_eq_cons ',' ("" ++ "@" ++ domain)
  rw [cut] at shape
  cases recipients with
  | nil =>
      cases shape
  | cons recipient others =>
      obtain ⟨trimmed, _⟩ := List.cons.inj shape
      have isValid := valid _ List.mem_cons_self
      have startsAt : first.toList <+: '@' :: domain.toList := by
        simpa using starts
      -- The at sign is not blank, so only the end of the first piece is trimmed.
      have kept : first.toList.dropWhile Text.isBlank = first.toList := by
        rw [List.dropWhile_eq_self_iff]
        intro inhabited
        rw [startsAt.getElem inhabited, List.getElem_cons_zero]
        decide
      obtain ⟨tail, whole, _⟩ :=
        Text.exists_eq_dropEndWhile_append Text.isBlank first
      rw [Text.trim, kept, String.ofList_toList] at trimmed
      rw [whole, trimmed] at startsAt
      have isAt : '@' ∈ recipient.localPart.toList := by
        cases named : recipient.localPart.toList with
        | nil =>
            exact
              absurd (String.toList_inj.1 named) isValid.localPart_ne_empty
        | cons character behind =>
            simp only [Address.text, String.toList_append, named,
              List.cons_append, List.cons_prefix_cons] at startsAt
            simp [startsAt.1]
      exact
        Address.at_not_mem_of_isHalf (Address.isValid_iff.1 isValid).1 isAt

/-- Trimming only takes characters away. -/
theorem length_trim_le (text : String) :
    (Text.trim text).toList.length ≤ text.toList.length := by
  have shorter (characters : List Char) :
      (characters.dropWhile Text.isBlank).length ≤ characters.length :=
    (List.dropWhile_suffix Text.isBlank).length_le
  rw [Text.toList_trim, List.length_reverse]
  refine Nat.le_trans (shorter _) ?_
  rw [List.length_reverse]
  exact shorter text.toList

/-- Pieces that are trimmed make up a list that is no longer. -/
theorem length_intercalate_trim_le (pieces : List String) :
    (String.intercalate "," (pieces.map Text.trim)).toList.length ≤
      (String.intercalate "," pieces).toList.length := by
  induction pieces with
  | nil =>
      exact Nat.le_refl _
  | cons first rest inductionHypothesis =>
      have front := length_trim_le first
      by_cases last : rest = []
      · subst last
        simpa using front
      · have others : rest.map Text.trim ≠ [] := by
          simpa using last
        rw [List.map_cons, String.intercalate_cons_of_ne_nil others,
          String.intercalate_cons_of_ne_nil last]
        simp only [String.toList_append, List.length_append]
        omega

/-- Recipients are written with no more characters than they were read from. -/
theorem length_joinAddresses_le
    {list : String}
    {recipients : List Address}
    (read : readRecipients list = .ok recipients) :
    (Email.joinAddresses recipients).toList.length ≤ list.toList.length := by
  obtain ⟨pieces, _⟩ := readRecipients_eq_ok_iff.1 read
  have shorter := length_intercalate_trim_le (Text.pieces ',' list)
  have rejoined :
      String.intercalate "," (Text.pieces ',' list) = list :=
    Text.intercalate_pieces ',' list
  rwa [pieces, rejoined] at shorter

section Recipients

variable
  {recipients : List Address}
  (valid : ∀ recipient ∈ recipients, recipient.IsValid)

include valid

/-- A recipient list breaks no line. -/
theorem isOneLine_joinAddresses :
    Wire.IsOneLine (Email.joinAddresses recipients) := by
  apply Wire.isOneLine_intercalate (by decide)
  intro text member
  obtain ⟨recipient, isRecipient, rfl⟩ := List.mem_map.1 member
  exact (valid recipient isRecipient).isOneLine_text

/-- A recipient list has as many bytes as characters. -/
theorem length_encode_joinAddresses :
    (Text.encode (Email.joinAddresses recipients)).length =
      (Email.joinAddresses recipients).toList.length := by
  apply Text.length_encode_of_short
  refine
    @Wire.forall_mem_intercalate (·.toNat < 0x80) ","
      (List.forall_mem_singleton.2 (by decide)) _ ?_
  intro text member character inText
  obtain ⟨recipient, isRecipient, rfl⟩ := List.mem_map.1 member
  have range := (valid recipient isRecipient).range_of_mem_text inText
  omega

/-- Cutting a recipient list at the commas gives the written recipients. -/
theorem pieces_joinAddresses (addressed : recipients ≠ []) :
    Text.pieces ',' (Email.joinAddresses recipients) =
      recipients.map Address.text := by
  have noComma :
      ∀ text ∈ recipients.map Address.text, ',' ∉ text.toList :=
    List.forall_mem_map.2 fun recipient member =>
      (valid recipient member).comma_not_mem_text
  exact Text.pieces_intercalate noComma (by simpa using addressed)

/-- A written recipient list is read as its recipients. -/
theorem readRecipients_joinAddresses (addressed : recipients ≠ []) :
    readRecipients (Email.joinAddresses recipients) = .ok recipients := by
  refine readRecipients_eq_ok_iff.2 ⟨?_, valid⟩
  rw [pieces_joinAddresses valid addressed, List.map_map]
  exact List.map_congr_left fun recipient member =>
    (valid recipient member).trim_text

end Recipients

namespace Spoken

/-- A spoken command is read as it was meant. -/
theorem ofLine_line
    {command : Command}
    (spoken : Spoken command) :
    Command.ofLine command.line = command := by
  apply Command.ofLine_line
  intro line same
  subst same
  cases spoken

/-- The line of a spoken command gives the command back. -/
theorem isLine_line
    {command : Command}
    (spoken : Spoken command) :
    Wire.IsLine command.line := by
  cases spoken with
  | begun | sent =>
      decide
  | addressed valid addressed =>
      exact Wire.IsLine.append
        (by decide) (isOneLine_joinAddresses valid).isLine
  | signed isLine | titled isLine | filled isLine =>
      exact Wire.IsLine.append (by decide) isLine

end Spoken

/-- An email that a client can put into words: lines give its parts back. -/
structure Speakable (email : Email) : Prop where
  addressed : email.recipients ≠ []
  valid : ∀ recipient ∈ email.recipients, recipient.IsValid
  sender : Wire.IsLine email.sender
  subject : Wire.IsLine email.subject
  data : Wire.IsLine email.data

/-- An email that can be submitted: it has recipients, and breaks no line. -/
structure Submittable (email : Email) : Prop where
  addressed : email.recipients ≠ []
  valid : ∀ recipient ∈ email.recipients, recipient.IsValid
  sender : Wire.IsOneLine email.sender
  subject : Wire.IsOneLine email.subject
  data : Wire.IsOneLine email.data

/-- The commands that submit an email are spoken. -/
theorem Speakable.spoken
    {email : Email}
    (speakable : Speakable email)
    {command : Command}
    (member : command ∈ commandsFor email) :
    Spoken command := by
  simp only [commandsFor, List.mem_cons, List.not_mem_nil, or_false]
    at member
  rcases member with rfl | rfl | rfl | rfl | rfl | rfl
  · exact .begun
  · exact .addressed speakable.valid speakable.addressed
  · exact .signed speakable.sender
  · exact .titled speakable.subject
  · exact .filled speakable.data
  · exact .sent

namespace Submittable

variable {email : Email} (submittable : Submittable email)

include submittable

theorem speakable : Speakable email where
  addressed :=
    submittable.addressed
  valid :=
    submittable.valid
  sender :=
    submittable.sender.isLine
  subject :=
    submittable.subject.isLine
  data :=
    submittable.data.isLine

/-- The commands that submit an email are written on one line each. -/
theorem isOneLine_line
    {command : Command}
    (member : command ∈ commandsFor email) :
    Wire.IsOneLine command.line := by
  simp only [commandsFor, List.mem_cons, List.not_mem_nil, or_false]
    at member
  rcases member with rfl | rfl | rfl | rfl | rfl | rfl
  · decide
  · exact Wire.isOneLine_append.2
      ⟨by decide, isOneLine_joinAddresses submittable.valid⟩
  · exact Wire.isOneLine_append.2 ⟨by decide, submittable.sender⟩
  · exact Wire.isOneLine_append.2 ⟨by decide, submittable.subject⟩
  · exact Wire.isOneLine_append.2 ⟨by decide, submittable.data⟩
  · decide

end Submittable

end Postroom.Submission
