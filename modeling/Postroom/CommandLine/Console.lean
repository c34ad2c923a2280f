import Postroom.Text.Blank
import Postroom.Text.Utf8

namespace Postroom.CommandLine

/-!
# The operator's console

A running component reads its standard input line by line and stops at the end
of it or at a line that says `shutdown`. A line that is no text is an error.
-/

/-- The word that stops a component. -/
def shutdownWord : String :=
  "shutdown"

/-- The reason of an error when bytes are no text. -/
def notText : String :=
  "stream did not contain valid UTF-8"

/-- The bytes of a line without the line feed, and a carriage return in front of it. -/
def withoutBreak (line : List UInt8) : List UInt8 :=
  match line.reverse with
  | 10 :: 13 :: rest =>
      rest.reverse
  | 10 :: rest =>
      rest.reverse
  | _ =>
      line

/-- The lines of a stream, each with the line feed that ends it. -/
def consoleLines (stream : List UInt8) : List (List UInt8) :=
  let segments := stream.splitOn 10
  let ended := segments.dropLast.map (· ++ [10])
  match segments.getLast? with
  | none | some [] =>
      ended
  | some last =>
      ended ++ [last]

/-- Whether a line stops the component, unless it is no text. -/
def stops (line : List UInt8) : Except String Bool :=
  let bytes := withoutBreak line
  let text := Text.decode bytes
  if Text.encode text = bytes then
    .ok (Text.trim text = shutdownWord)
  else
    .error notText

/-- Read lines until one stops the component. -/
def awaitShutdown : List (List UInt8) → Except String Unit
  | [] =>
      .ok ()
  | line :: rest =>
      match stops line with
      | .error reason =>
          .error reason
      | .ok true =>
          .ok ()
      | .ok false =>
          awaitShutdown rest

end Postroom.CommandLine
