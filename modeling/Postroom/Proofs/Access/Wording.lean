import Postroom.Access.Session
import Postroom.Proofs.Text.Pieces

namespace Postroom.Access

/-!
# Access commands are understood as they are meant

A line is the words of a command with single spaces between them. So every
line is the line of the command that it denotes, and a command whose words
hold no spaces is denoted by its line. The number of a message is read back
from its numeral.
-/

namespace Command

/-- The words of a command; a line that is no command counts as one word. -/
def words : Command → List String
  | .login user password =>
      ["login", user, password]
  | .list =>
      ["list"]
  | .showMail number =>
      ["show", number]
  | .delete number =>
      ["delete", number]
  | .logout =>
      ["logout"]
  | .quit =>
      ["quit"]
  | .unknown text =>
      [text]

/-- The line of a command is its words with single spaces between them. -/
theorem line_eq_intercalate (command : Command) :
    command.line = String.intercalate " " command.words := by
  have spelled (keyword rest : String) :
      keyword ++ " " ++ rest = String.intercalate " " [keyword, rest] := by
    simp [String.intercalate_cons_of_ne_nil]
  cases command with
  | login user password =>
      have first : "login " = "login" ++ " " :=
        rfl
      simp [line, words, first, String.intercalate_cons_of_ne_nil,
        String.append_assoc]
  | showMail number =>
      exact spelled "show" number
  | delete number =>
      exact spelled "delete" number
  | list | logout | quit | unknown text =>
      simp [line, words]

/-- A command that a line can denote: its words hold no spaces. -/
def IsPlain : Command → Prop
  | .login user password =>
      user ≠ "" ∧ ' ' ∉ user.toList ∧ ' ' ∉ password.toList
  | .showMail number | .delete number =>
      ' ' ∉ number.toList
  | .list | .logout | .quit =>
      True
  | .unknown _ =>
      False

/-- Cutting the line of a plain command at the spaces gives its words. -/
theorem pieces_line
    {command : Command}
    (plain : command.IsPlain) :
    Text.pieces ' ' command.line = command.words := by
  have single : String.singleton ' ' = " " :=
    rfl
  rw [line_eq_intercalate, ← single]
  apply Text.pieces_intercalate
  · cases command with
    | login user password =>
        simpa [words] using plain.2
    | showMail number | delete number =>
        have oneWord : ' ' ∉ number.toList :=
          plain
        simpa [words] using oneWord
    | list | logout | quit =>
        simp [words]
    | unknown text =>
        cases plain
  · cases command <;> simp [words]

/-- The line of a plain command denotes that command. -/
theorem ofLine_line
    {command : Command}
    (plain : command.IsPlain) :
    ofLine command.line = command := by
  have cut := pieces_line plain
  cases command with
  | login user password =>
      simp [ofLine, cut, words, plain.1]
  | list | showMail number | delete number | logout | quit =>
      simp [ofLine, cut, words]
  | unknown text =>
      cases plain

/-- Every line is the line of the command that it denotes. -/
theorem line_ofLine (text : String) :
    (ofLine text).line = text := by
  have rejoined
      {command : Command}
      (cut : Text.pieces ' ' text = command.words) :
      command.line = text := by
    rw [line_eq_intercalate, ← cut]
    exact Text.intercalate_pieces ' ' text
  unfold ofLine
  split
  · rename_i user password cut
    split
    · rfl
    · exact @rejoined (.login user password) cut
  · exact @rejoined .list ‹_›
  · exact @rejoined (.showMail _) ‹_›
  · exact @rejoined (.delete _) ‹_›
  · exact @rejoined .logout ‹_›
  · exact @rejoined .quit ‹_›
  · rfl

/-- A line that denotes a command is the line of that command. -/
theorem eq_line_of_ofLine
    {text : String}
    {command : Command}
    (read : ofLine text = command) :
    text = command.line := by
  rw [← read, line_ofLine]

/-- A line denotes a plain command, or is no command as a whole. -/
theorem ofLine_cases (text : String) :
    (ofLine text).IsPlain ∨ ofLine text = .unknown text := by
  have oneWord
      {piece : String}
      (isPiece : piece ∈ Text.pieces ' ' text) :
      ' ' ∉ piece.toList :=
    Text.separator_not_mem_of_mem_pieces isPiece
  unfold ofLine
  split
  · rename_i user password cut
    split
    · exact Or.inr rfl
    · rename_i named
      exact
        Or.inl ⟨named, oneWord (by simp [cut]), oneWord (by simp [cut])⟩
  · exact Or.inl trivial
  · rename_i number cut
    exact Or.inl (oneWord (by simp [cut]))
  · rename_i number cut
    exact Or.inl (oneWord (by simp [cut]))
  · exact Or.inl trivial
  · exact Or.inl trivial
  · exact Or.inr rfl

/-- A command is denoted by its line, if it is plain, and by no other line. -/
theorem ofLine_eq_iff
    {text : String}
    {command : Command}
    (known : ∀ other, command ≠ .unknown other) :
    ofLine text = command ↔ text = command.line ∧ command.IsPlain := by
  constructor
  · rintro rfl
    exact
      ⟨(line_ofLine text).symm,
        (ofLine_cases text).resolve_right (known text)⟩
  · rintro ⟨rfl, plain⟩
    exact ofLine_line plain

/-- A line is no command exactly when it is the line of no plain command. -/
theorem ofLine_eq_unknown_iff {text other : String} :
    ofLine text = .unknown other ↔
      other = text ∧
        ∀ command : Command, command.IsPlain → command.line ≠ text := by
  constructor
  · intro read
    refine ⟨(eq_line_of_ofLine read).symm, ?_⟩
    rintro command plain rfl
    rw [ofLine_line plain] at read
    rw [read] at plain
    exact plain
  · rintro ⟨rfl, none⟩
    rcases ofLine_cases other with plain | unknown
    · exact absurd (line_ofLine other) (none _ plain)
    · exact unknown

/-- The line of a plain command has two spaces at most. -/
theorem count_space_line_le
    {command : Command}
    (plain : command.IsPlain) :
    command.line.toList.count ' ' ≤ 2 := by
  cases command with
  | login user password =>
      obtain ⟨_, inUser, inPassword⟩ := plain
      simp [line, List.count_append, List.count_eq_zero.2 inUser,
        List.count_eq_zero.2 inPassword]
  | showMail number | delete number =>
      have inNumber : number.toList.count ' ' = 0 :=
        List.count_eq_zero.2 plain
      simp [line, inNumber]
  | list | logout | quit =>
      decide
  | unknown text =>
      cases plain

/-- A login is understood when neither the name nor the password holds a space. -/
theorem ofLine_login
    {user password : String}
    (named : user ≠ "") :
    ofLine ("login " ++ user ++ " " ++ password) =
      if ' ' ∈ user.toList ∨ ' ' ∈ password.toList then
        .unknown ("login " ++ user ++ " " ++ password)
      else
        .login user password := by
  split
  · rename_i spaced
    refine ofLine_eq_unknown_iff.2 ⟨rfl, ?_⟩
    intro command plain same
    have few := count_space_line_le plain
    have total :
        ("login " ++ user ++ " " ++ password).toList.count ' ' =
          2 + user.toList.count ' ' + password.toList.count ' ' := by
      simp [List.count_append]
      omega
    rw [same, total] at few
    rcases spaced with inUser | inPassword
    · have spaces := List.count_pos_iff.2 inUser
      omega
    · have spaces := List.count_pos_iff.2 inPassword
      omega
  · rename_i words
    exact
      @ofLine_line (.login user password)
        ⟨named, fun inUser => words (Or.inl inUser),
          fun inPassword => words (Or.inr inPassword)⟩

end Command

/-- A message number is read from its numerals. -/
theorem readMessageId?_eq_some_iff
    {number : String}
    {identifier : Mailbox.MessageId} :
    readMessageId? number = some identifier ↔
      Text.IsNumeral number identifier.toNat := by
  simp only [readMessageId?, Option.map_eq_some_iff,
    Text.readBelow?_eq_some_iff]
  constructor
  · rintro ⟨value, ⟨numeral, below⟩, rfl⟩
    rwa [UInt64.toNat_ofNat_of_lt' below]
  · intro numeral
    exact
      ⟨identifier.toNat, ⟨numeral, identifier.toNat_lt⟩,
        UInt64.ofNat_toNat⟩

/-- No message number is read from what is no numeral of a number in range. -/
theorem readMessageId?_eq_none_iff {number : String} :
    readMessageId? number = none ↔
      ¬ ∃ value < UInt64.size, Text.IsNumeral number value := by
  rw [readMessageId?, Option.map_eq_none_iff,
    Option.eq_none_iff_forall_ne_some]
  simp only [ne_eq, Text.readBelow?_eq_some_iff, and_comm, not_exists]

/-- The numeral of a message number is read as that number. -/
theorem readMessageId?_writeDecimal (identifier : Mailbox.MessageId) :
    readMessageId? (Text.writeDecimal identifier.toNat) =
      some identifier :=
  readMessageId?_eq_some_iff.2 (Text.isNumeral_writeDecimal _)

end Postroom.Access
