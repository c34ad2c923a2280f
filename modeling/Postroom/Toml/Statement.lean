import Postroom.Toml.Quoted
import Postroom.Toml.Scalar

namespace Postroom.Toml

/-!
# TOML statements

A document is a sequence of statements: entries of the current table, and
headers that begin another table or another element of an array of tables.
Entries of inline tables are statements too, so this module also says how
entries with dotted keys make up a table.
-/

/-- How a table came to be, which decides what may still be added to it. -/
inductive Origin where
  /-- By a header of its own, or by braces. -/
  | header
  /-- By the header of a table within it. -/
  | implied
  /-- By a dotted key. -/
  | dotted
  deriving Repr, DecidableEq

/-- A part of a document that is still being put together. -/
inductive Node where
  | value (content : Value)
  | table (origin : Origin) (entries : List (String × Node))
  /-- An array of tables, the current one first. -/
  | tables (current : List (String × Node)) (earlier : List (List (String × Node)))

/-- The named parts of a table that is still being put together. -/
abbrev Entries :=
  List (String × Node)

/-- Replace the part of a name that occurs. -/
def Entries.replace
    (entries : Entries)
    (name : String)
    (node : Node) :
    Entries :=
  entries.map fun entry =>
    if entry.1 = name then (name, node) else entry

/-- Enter a value under a key, the names in front of which lead to its table. -/
def Entries.enter?
    (entries : Entries)
    (path : List String)
    (name : String)
    (content : Value) :
    Option Entries :=
  match path with
  | [] =>
      if entries.any (·.1 == name) then
        none
      else
        some (entries ++ [(name, .value content)])
  | first :: rest =>
      match List.lookup first entries with
      | none => do
          let inner ← Entries.enter? [] rest name content
          return entries ++ [(first, .table .dotted inner)]
      | some (.table origin inner) => do
          if origin = .header ∨ rest = [] ∧ origin ≠ .dotted then
            none
          let changed ← Entries.enter? inner rest name content
          return entries.replace first (.table origin changed)
      | some (.tables current earlier) => do
          if rest = [] then
            none
          let changed ← Entries.enter? current rest name content
          return entries.replace first (.tables changed earlier)
      | some (.value _) =>
          none

mutual

/-- A finished part of a document. -/
def Node.finish : Node → Value
  | .value content =>
      content
  | .table _ entries =>
      .table (finishEntries entries)
  | .tables current earlier =>
      .array
        ((.table (finishEntries current) ::
          finishTables earlier).reverse)

/-- The finished parts of a table. -/
def finishEntries : List (String × Node) → List (String × Value)
  | [] =>
      []
  | (name, node) :: rest =>
      (name, node.finish) :: finishEntries rest

/-- The finished elements of an array of tables. -/
def finishTables : List (List (String × Node)) → List Value
  | [] =>
      []
  | entries :: rest =>
      .table (finishEntries entries) :: finishTables rest

end

/-- Arrays and inline tables are nested less deep than this, and keys are shorter. -/
def nestingLimit : Nat :=
  80

/-- The characters of a key that is not quoted. -/
def isKeyCharacter (character : Char) : Bool :=
  character.isAlphanum || character == '-' || character == '_'

/-- Drop blanks within a line. -/
def dropSpaces (characters : List Char) : List Char :=
  characters.dropWhile isSpace

/-- One name of a key. -/
def readName? (characters : List Char) : Option (String × List Char) :=
  match characters with
  | '"' :: _ | '\x27' :: _ =>
      readLineText? characters
  | _ =>
      let name := characters.takeWhile isKeyCharacter
      if name = [] then
        none
      else
        some (String.ofList name, characters.dropWhile isKeyCharacter)

/-- The names of a key and what stands behind it, blanks left out. -/
def readKey? :
    Nat →
    List Char →
    Option (List String × List Char)
  | 0, _ =>
      none
  | allowed + 1, characters => do
      let (name, rest) ← readName? (dropSpaces characters)
      match dropSpaces rest with
      | '.' :: behind =>
          let (names, rest) ← readKey? allowed behind
          return (name :: names, rest)
      | behind =>
          return ([name], behind)

/-- Drop a comment, if one begins here. -/
def dropComment? : List Char → Option (List Char)
  | '#' :: rest =>
      match rest.dropWhile isPlain with
      | [] =>
          some []
      | behind =>
          if (lineBreak? behind).isSome then some behind else none
  | characters =>
      some characters

/-- Go on behind the end of a line, where only blanks and a comment may stand. -/
def endOfLine? (characters : List Char) : Option (List Char) := do
  let rest ← dropComment? (dropSpaces characters)
  match rest with
  | [] =>
      return []
  | _ =>
      lineBreak? rest

/-- Drop blanks, line breaks and comments between the elements of an array. -/
def dropFiller? :
    Nat →
    List Char →
    Option (List Char)
  | 0, _ =>
      none
  | fuel + 1, characters => do
      let rest ← dropComment? (dropGap characters)
      match lineBreak? rest with
      | some behind =>
          dropFiller? fuel behind
      | none =>
          return rest

mutual

/--
The value at the front of a text.

The fuel bounds the recursion; the characters that are left to read are always
enough. The depth counts how many brackets may still be opened.
-/
def readValue?
    (fuel depth : Nat)
    (characters : List Char) :
    Option (Value × List Char) :=
  match fuel, characters with
  | 0, _ =>
      none
  | fuel + 1, '[' :: rest =>
      match depth with
      | 0 =>
          none
      | depth + 1 => do
          let (elements, behind) ← readElements? fuel depth rest
          return (.array elements, behind)
  | fuel + 1, '{' :: rest =>
      match depth with
      | 0 =>
          none
      | depth + 1 => do
          match dropSpaces rest with
          | '}' :: behind =>
              return (.table [], behind)
          | first => do
              let (entries, behind) ←
                readInline? fuel depth [] first
              return (.table (finishEntries entries), behind)
  | _ + 1, '"' :: _ | _ + 1, '\x27' :: _ => do
      let (text, behind) ← readText? characters
      return (.string text, behind)
  | _ + 1, _ => do
      let (token, behind) := splitToken characters
      return (← ofToken? token, behind)

/-- The elements of an array up to its closing bracket. -/
def readElements?
    (fuel depth : Nat)
    (characters : List Char) :
    Option (List Value × List Char) :=
  match fuel with
  | 0 =>
      none
  | fuel + 1 => do
      match ← dropFiller? (characters.length + 1) characters with
      | ']' :: behind =>
          return ([], behind)
      | first => do
          let (element, rest) ← readValue? fuel depth first
          match ← dropFiller? (rest.length + 1) rest with
          | ']' :: behind =>
              return ([element], behind)
          | ',' :: rest => do
              let (elements, behind) ←
                readElements? fuel depth rest
              return (element :: elements, behind)
          | _ =>
              none

/-- The entries of an inline table up to its closing brace. -/
def readInline?
    (fuel depth : Nat)
    (entries : Entries)
    (characters : List Char) :
    Option (Entries × List Char) :=
  match fuel with
  | 0 =>
      none
  | fuel + 1 => do
      let (key, rest) ← readKey? (nestingLimit - 1) characters
      let first := dropSpaces (← expect? '=' rest)
      let (content, rest) ← readValue? fuel depth first
      let name ← key.getLast?
      let grown ← entries.enter? key.dropLast name content
      match dropSpaces rest with
      | '}' :: behind =>
          return (grown, behind)
      | ',' :: behind =>
          readInline? fuel depth grown behind
      | _ =>
          none

end

/-- A statement of a document. -/
inductive Statement where
  | entry (path : List String) (name : String) (content : Value)
  | table (path : List String) (name : String)
  | tableElement (path : List String) (name : String)

/-- The last name of a key and the names in front of it. -/
def splitKey? (key : List String) : Option (List String × String) :=
  key.getLast?.map fun name => (key.dropLast, name)

/-- The statement at the front of a text, up to the end of its line. -/
def readStatement?
    (characters : List Char) :
    Option (Statement × List Char) :=
  match characters with
  | '[' :: '[' :: rest => do
      let (key, rest) ← readKey? (nestingLimit - 1) rest
      let rest ← expect? ']' (← expect? ']' rest)
      let (path, name) ← splitKey? key
      return (.tableElement path name, ← endOfLine? rest)
  | '[' :: rest => do
      let (key, rest) ← readKey? (nestingLimit - 1) rest
      let rest ← expect? ']' rest
      let (path, name) ← splitKey? key
      return (.table path name, ← endOfLine? rest)
  | _ => do
      let (key, rest) ← readKey? (nestingLimit - 1) characters
      let first := dropSpaces (← expect? '=' rest)
      let (content, rest) ←
        readValue? (2 * first.length + 2) (nestingLimit - 1) first
      let (path, name) ← splitKey? key
      return (.entry path name content, ← endOfLine? rest)

/-- All statements of a text. -/
def readStatements? :
    Nat →
    List Char →
    Option (List Statement)
  | 0, _ =>
      none
  | fuel + 1, characters =>
      match dropSpaces characters with
      | [] =>
          some []
      | first =>
          if first.head? = some '#' ∨ (lineBreak? first).isSome then do
            readStatements? fuel (← endOfLine? first)
          else do
            let (statement, rest) ← readStatement? first
            let others ← readStatements? fuel rest
            return statement :: others

end Postroom.Toml
