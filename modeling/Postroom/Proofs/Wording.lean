import Postroom.Proofs.Access.Wording
import Postroom.Proofs.Submission.Wording

namespace Postroom

/-!
# What is written is read as it was meant

Reading undoes writing, and reading again what was written changes nothing.
The first main statement says so of addresses and recipient lists and tells
which texts are addresses, the second of the commands of both protocols and
which lines are commands.
-/

/--
A text is read as an address exactly when it spells that address. An address
that was read is written as the text, and a text that is refused is quoted by
the error. An address of two words is read back from its text, and recipients
of this kind are read back from their list in order.
-/
theorem addresses_are_read_as_written :
    (∀ text address,
      Address.ofText text = .ok address ↔ Address.Spells text address) ∧
      (∀ text address,
        Address.ofText text = .ok address → address.text = text) ∧
      (∀ text error,
        Address.ofText text = .error error → error.text = text) ∧
      (∀ address : Address,
        Address.IsWord address.localPart →
        Address.IsWord address.domain →
        Address.ofText address.text = .ok address) ∧
      ∀ email : Email,
        email.recipients ≠ [] →
        (∀ recipient ∈ email.recipients,
          Address.IsWord recipient.localPart ∧
            Address.IsWord recipient.domain) →
        Submission.readRecipients email.recipientList =
          .ok email.recipients := by
  refine ⟨fun _ _ => Address.ofText_eq_ok_iff_spells, ?_, ?_, ?_, ?_⟩
  · intro text address read
    exact (Address.ofText_eq_ok_iff_spells.1 read).shape.symm
  · intro text error refused
    obtain ⟨_, rfl⟩ := Address.ofText_eq_error_iff.1 refused
    rfl
  · intro address localPart domain
    exact
      Address.ofText_eq_ok_iff.2 (Address.isValid_of_isWord localPart domain)
  · intro email addressed words
    refine Submission.readRecipients_joinAddresses ?_ addressed
    intro recipient member
    obtain ⟨localPart, domain⟩ := words recipient member
    exact Address.isValid_of_isWord localPart domain

/-- Two recipients whose halves use every kind of sign, and a text with two at signs. -/
theorem addresses_are_read_as_written_with_marks :
    let recipients : List Address :=
      [⟨"A.b_9", "x-y+z"⟩, ⟨".", "0"⟩]
    let email : Email := ⟨recipients, "", "", ""⟩
    Submission.readRecipients email.recipientList = .ok recipients ∧
      Address.ofText "A.b_9@x-y+z" = .ok ⟨"A.b_9", "x-y+z"⟩ ∧
      ¬ ∃ address, Address.ofText "a@b@c" = .ok address := by
  intro recipients email
  obtain ⟨spells, _, _, readBack, readList⟩ := addresses_are_read_as_written
  have words :
      ∀ recipient ∈ recipients,
        Address.IsWord recipient.localPart ∧
          Address.IsWord recipient.domain := by
    intro recipient member
    rw [← Address.isHalf_iff, ← Address.isHalf_iff]
    revert recipient
    decide
  obtain ⟨localPart, domain⟩ := words _ List.mem_cons_self
  refine ⟨readList email (by decide) words, readBack _ localPart domain, ?_⟩
  rintro ⟨address, read⟩
  have once := ((spells _ _).1 read).once
  revert once
  decide

/--
The line of the command that is read from a line is that line. In the
submission protocol every command is read from its line alone, whatever its
argument; in the access protocol exactly those commands whose words hold no
spaces are, and a login needs a name. Every other line is no command.
-/
theorem commands_are_read_as_written :
    ((∀ text, (Submission.Command.ofLine text).line = text) ∧
        (∀ text command,
          (∀ other, command ≠ .unknown other) →
          (Submission.Command.ofLine text = command ↔
            text = command.line)) ∧
        ∀ text other,
          Submission.Command.ofLine text = .unknown other ↔
            other = text ∧
              ∀ command : Submission.Command,
                (∀ line, command ≠ .unknown line) →
                command.line ≠ text) ∧
      (∀ text, (Access.Command.ofLine text).line = text) ∧
        (∀ text user password,
          Access.Command.ofLine text = .login user password ↔
            text = "login " ++ user ++ " " ++ password ∧
              user ≠ "" ∧
              ' ' ∉ user.toList ∧
              ' ' ∉ password.toList) ∧
        (∀ text number,
          Access.Command.ofLine text = .showMail number ↔
            text = "show " ++ number ∧ ' ' ∉ number.toList) ∧
        (∀ text number,
          Access.Command.ofLine text = .delete number ↔
            text = "delete " ++ number ∧ ' ' ∉ number.toList) ∧
        (∀ text, Access.Command.ofLine text = .list ↔ text = "list") ∧
        (∀ text, Access.Command.ofLine text = .logout ↔ text = "logout") ∧
        (∀ text, Access.Command.ofLine text = .quit ↔ text = "quit") ∧
        ∀ text other,
          Access.Command.ofLine text = .unknown other ↔
            other = text ∧
              ∀ command : Access.Command,
                command.IsPlain → command.line ≠ text := by
  have bare
      {text : String}
      {command : Access.Command}
      (known : ∀ other, command ≠ .unknown other)
      (plain : command.IsPlain) :
      Access.Command.ofLine text = command ↔ text = command.line := by
    rw [Access.Command.ofLine_eq_iff known, and_iff_left plain]
  refine ⟨⟨?_, ?_, ?_⟩, ?_, ?_, ?_, ?_, ?_, ?_, ?_, ?_⟩
  · exact Submission.Command.line_ofLine
  · exact fun _ _ => Submission.Command.ofLine_eq_iff
  · exact fun _ _ => Submission.Command.ofLine_eq_unknown_iff
  · exact Access.Command.line_ofLine
  · exact fun _ _ _ => Access.Command.ofLine_eq_iff (by simp)
  · exact fun _ _ => Access.Command.ofLine_eq_iff (by simp)
  · exact fun _ _ => Access.Command.ofLine_eq_iff (by simp)
  · exact fun _ => bare (by simp) trivial
  · exact fun _ => bare (by simp) trivial
  · exact fun _ => bare (by simp) trivial
  · exact fun _ _ => Access.Command.ofLine_eq_unknown_iff

/-- An argument that looks like a command, an empty password, and one word too many. -/
theorem commands_are_read_as_written_with_spaces :
    Submission.Command.ofLine "data  quit" = .data " quit" ∧
      (∀ command : Submission.Command,
        (∀ line, command ≠ .unknown line) → command.line ≠ "quit ") ∧
      Access.Command.ofLine "login ann " = .login "ann" "" ∧
      ∀ command : Access.Command,
        command.IsPlain → command.line ≠ "login ann p q" := by
  obtain ⟨⟨_, known, unknown⟩, _, login, _, _, _, _, _, other⟩ :=
    commands_are_read_as_written
  have trailing :
      Submission.Command.ofLine "quit " = .unknown "quit " := by
    decide
  have surplus :
      Access.Command.ofLine "login ann p q" =
        .unknown "login ann p q" := by
    decide
  exact
    ⟨(known _ _ (by simp)).2 rfl,
      ((unknown _ _).1 trailing).2,
      (login _ _ _).2 (by decide),
      ((other _ _).1 surplus).2⟩

end Postroom
