import Postroom.Text.Split

namespace Postroom.CommandLine

/-!
# Log files

A component may keep its log in a file besides writing it to standard output.
Missing directories are made on the way; a path through a file or to a
directory is refused. Paths are taken from a working directory that holds
nothing but some files.
-/

/-- Why a file is not opened for writing. -/
inductive PathError where
  | noEntry
  | notDirectory
  | isDirectory
  deriving Repr, DecidableEq

/-- The system's wording of a path error. -/
def PathError.reason : PathError → String
  | .noEntry =>
      "No such file or directory (os error 2)"
  | .notDirectory =>
      "Not a directory (os error 20)"
  | .isDirectory =>
      "Is a directory (os error 21)"

/-- The names of a path that lead somewhere. -/
def steps (path : String) : List String :=
  (Text.pieces '/' path).filter fun name => name != "" && name != "."

/-- The place that some steps lead to, unless they leave the working directory. -/
def follow? (names : List String) : Option (List String) :=
  names.foldlM
    (fun place name =>
      if name = ".." then
        if place = [] then none else some place.dropLast
      else
        some (place ++ [name]))
    []

/-- A place in the working directory as a path. -/
def pathOf (place : List String) : String :=
  String.intercalate "/" place

/-- Whether some path in front of the end of a place is a file. -/
def passesFile
    (files : List String)
    (place : List String) :
    Bool :=
  (List.range place.length).any fun count =>
    files.contains (pathOf (place.take count))

/-- The files after one of them was opened for writing. -/
def openForWriting
    (files : List String)
    (path : String) :
    Except PathError (List String) :=
  if path = "" then
    .error .noEntry
  else if ["", ".", ".."].contains ((Text.pieces '/' path).getLastD "") then
    .error .isDirectory
  else if (Text.pieces '/' path).head? = some "" then
    .ok files
  else
    match follow? (steps path) with
    | none =>
        .ok files
    | some place =>
        if passesFile files place then
          .error .notDirectory
        else if files.contains (pathOf place) then
          .ok files
        else
          .ok (files ++ [pathOf place])

/-- The content of a file of the working directory. -/
def readFrom
    (files : List (String × String))
    (path : String) :
    Except PathError String :=
  let last := (Text.pieces '/' path).getLastD ""
  let place := follow? (steps path)
  match place with
  | some [] =>
      .error .isDirectory
  | some names =>
      match List.lookup (pathOf names) files with
      | some content =>
          if last = "" ∨ last = "." then
            .error .notDirectory
          else
            .ok content
      | none =>
          if passesFile (files.map Prod.fst) names then
            .error .notDirectory
          else
            .error .noEntry
  | none =>
      .error .noEntry

end Postroom.CommandLine
