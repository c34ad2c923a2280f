import Postroom.IpAddress
import Postroom.Toml.Value

namespace Postroom.Toml

/-!
# Quoted text

Text stands between quotation marks, where a backslash introduces escapes, or
between apostrophes, where nothing does. Three marks instead of one let the
text run over several lines; a line break directly behind them does not count,
and a break that follows a backslash is left out together with the blanks
behind it.
-/

/-- Blanks within a line. -/
def isSpace (character : Char) : Bool :=
  character == ' ' || character == '\t'

/-- The characters that may stand in a comment and, unless they are marks, in text. -/
def isPlain (character : Char) : Bool :=
  character == '\t' ||
    (0x20 ≤ character.toNat && character.toNat != 0x7F)

/-- Go on behind a line break. -/
def lineBreak? : List Char → Option (List Char)
  | '\n' :: rest =>
      some rest
  | '\r' :: '\n' :: rest =>
      some rest
  | _ =>
      none

/-- Drop blanks and line breaks. -/
def dropGap : List Char → List Char
  | ' ' :: rest | '\t' :: rest | '\n' :: rest =>
      dropGap rest
  | '\r' :: '\n' :: rest =>
      dropGap rest
  | rest =>
      rest

theorem length_dropGap_le (characters : List Char) :
    (dropGap characters).length ≤ characters.length := by
  fun_induction dropGap characters <;> simp_all <;> omega

theorem length_lineBreak?_lt
    {characters rest : List Char}
    (broken : lineBreak? characters = some rest) :
    rest.length < characters.length := by
  unfold lineBreak? at broken
  split at broken
  · obtain rfl := Option.some.inj broken
    exact Nat.lt_succ_self _
  · obtain rfl := Option.some.inj broken
    exact Nat.lt_add_of_pos_right (Nat.succ_pos 1)
  · exact nomatch broken

/-- The character of an escape that names it by its code. -/
def codedCharacter? (digits : List Char) : Option Char := do
  let values ← digits.mapM Ipv6.hexValue?
  let code := values.foldl (16 * · + ·) 0
  if code.isValidChar then
    some (Char.ofNat code)
  else
    none

/-- The character that an escape denotes, behind its backslash. -/
def escape? : List Char → Option (Char × List Char)
  | 'b' :: rest =>
      some ('\x08', rest)
  | 't' :: rest =>
      some ('\t', rest)
  | 'n' :: rest =>
      some ('\n', rest)
  | 'f' :: rest =>
      some ('\x0C', rest)
  | 'r' :: rest =>
      some ('\r', rest)
  | '"' :: rest =>
      some ('"', rest)
  | '\\' :: rest =>
      some ('\\', rest)
  | 'u' :: rest =>
      if rest.length < 4 then
        none
      else
        (codedCharacter? (rest.take 4)).map (·, rest.drop 4)
  | 'U' :: rest =>
      if rest.length < 8 then
        none
      else
        (codedCharacter? (rest.take 8)).map (·, rest.drop 8)
  | _ =>
      none

theorem length_escape?_lt
    {characters rest : List Char}
    {character : Char}
    (escaped : escape? characters = some (character, rest)) :
    rest.length < characters.length := by
  unfold escape? at escaped
  split at escaped <;> try split at escaped
  all_goals simp_all
  all_goals
    obtain ⟨_, _, _, rfl⟩ := escaped
    simp only [List.length_drop]
    omega

/-- Text up to a quotation mark. -/
def quoted (read : List Char) (characters : List Char) : Option (String × List Char) :=
  match characters with
  | [] =>
      none
  | '"' :: rest =>
      some (String.ofList read.reverse, rest)
  | '\\' :: rest =>
      match _escaped : escape? rest with
      | none =>
          none
      | some (character, behind) =>
          quoted (character :: read) behind
  | character :: rest =>
      if isPlain character then
        quoted (character :: read) rest
      else
        none
  termination_by characters.length
  decreasing_by
    · have shorter := length_escape?_lt _escaped
      simp only [List.length_cons]
      omega
    · simp

/-- Text up to an apostrophe. -/
def literal (read : List Char) : List Char → Option (String × List Char)
  | [] =>
      none
  | '\x27' :: rest =>
      some (String.ofList read.reverse, rest)
  | character :: rest =>
      if isPlain character then
        literal (character :: read) rest
      else
        none

/--
The end of a text over several lines, at a run of its marks.

Up to two marks belong to the text; three end it, and up to two in front of
those belong to the text as well.
-/
def closing?
    (mark : Char)
    (characters : List Char) :
    Option (List Char × List Char) :=
  let run := characters.takeWhile (· == mark)
  if run.length < 3 then
    none
  else if run.length ≤ 5 then
    some (List.replicate (run.length - 3) mark,
      characters.dropWhile (· == mark))
  else
    some (List.replicate 2 mark, characters.drop 5)

/-- Text over several lines up to three quotation marks. -/
def quotedBlock (read : List Char) (characters : List Char) : Option (String × List Char) :=
  match characters with
  | [] =>
      none
  | '"' :: rest =>
      match closing? '"' ('"' :: rest) with
      | some (marks, behind) =>
          some (String.ofList (marks ++ read).reverse, behind)
      | none =>
          quotedBlock ('"' :: read) rest
  | '\\' :: rest =>
      match _escaped : escape? rest with
      | some (character, behind) =>
          quotedBlock (character :: read) behind
      | none =>
          match _broken : lineBreak? (rest.dropWhile isSpace) with
          | none =>
              none
          | some behind =>
              quotedBlock read (dropGap behind)
  | character :: rest =>
      match _broken : lineBreak? (character :: rest) with
      | some behind =>
          quotedBlock ('\n' :: read) behind
      | none =>
          if isPlain character then
            quotedBlock (character :: read) rest
          else
            none
  termination_by characters.length
  decreasing_by
    · simp
    · have shorter := length_escape?_lt _escaped
      simp only [List.length_cons]
      omega
    · have shorter := length_lineBreak?_lt _broken
      have gap := length_dropGap_le behind
      have spaces :=
        (List.dropWhile_sublist isSpace (l := rest)).length_le
      simp only [List.length_cons]
      omega
    · exact length_lineBreak?_lt _broken
    · simp

/-- Text over several lines up to three apostrophes. -/
def literalBlock (read : List Char) (characters : List Char) : Option (String × List Char) :=
  match characters with
  | [] =>
      none
  | '\x27' :: rest =>
      match closing? '\x27' ('\x27' :: rest) with
      | some (marks, behind) =>
          some (String.ofList (marks ++ read).reverse, behind)
      | none =>
          literalBlock ('\x27' :: read) rest
  | character :: rest =>
      match _broken : lineBreak? (character :: rest) with
      | some behind =>
          literalBlock ('\n' :: read) behind
      | none =>
          if isPlain character then
            literalBlock (character :: read) rest
          else
            none
  termination_by characters.length
  decreasing_by
    · simp
    · exact length_lineBreak?_lt _broken
    · simp

/-- Drop one line break at the front. -/
def dropFirstBreak (characters : List Char) : List Char :=
  (lineBreak? characters).getD characters

/-- Quoted text on one line. -/
def readLineText? : List Char → Option (String × List Char)
  | '"' :: rest =>
      quoted [] rest
  | '\x27' :: rest =>
      literal [] rest
  | _ =>
      none

/-- Quoted text of any kind. -/
def readText? : List Char → Option (String × List Char)
  | '"' :: '"' :: '"' :: rest =>
      quotedBlock [] (dropFirstBreak rest)
  | '\x27' :: '\x27' :: '\x27' :: rest =>
      literalBlock [] (dropFirstBreak rest)
  | characters =>
      readLineText? characters

end Postroom.Toml
