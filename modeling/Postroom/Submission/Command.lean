import Postroom.Text.Split

namespace Postroom.Submission

/-!
# Commands of the submission protocol

A command is a keyword alone, or a keyword, one space and an argument that
runs to the end of the line and may be empty. A line is read by its first
space only, so nothing in an argument is lost.
-/

/-- One line of a submitting client. -/
inductive Command where
  | begin
  | to (list : String)
  | sender (text : String)
  | subject (text : String)
  | data (text : String)
  | send
  | quit
  /-- A line that is no command. -/
  | unknown (line : String)
  deriving Repr, DecidableEq

namespace Command

/-- The command that consists of a keyword alone. -/
def ofKeyword (keyword : String) : Command :=
  match keyword with
  | "begin" =>
      .begin
  | "send" =>
      .send
  | "quit" =>
      .quit
  | _ =>
      .unknown keyword

/-- The command that a line denotes. -/
def ofLine (line : String) : Command :=
  match Text.cutFirst? ' ' line with
  | none =>
      ofKeyword line
  | some ("to", list) =>
      .to list
  | some ("from", text) =>
      .sender text
  | some ("subject", text) =>
      .subject text
  | some ("data", text) =>
      .data text
  | some _ =>
      .unknown line

/-- The line that denotes a command. -/
def line : Command → String
  | .begin =>
      "begin"
  | .to list =>
      "to " ++ list
  | .sender text =>
      "from " ++ text
  | .subject text =>
      "subject " ++ text
  | .data text =>
      "data " ++ text
  | .send =>
      "send"
  | .quit =>
      "quit"
  | .unknown text =>
      text

end Command

end Postroom.Submission
