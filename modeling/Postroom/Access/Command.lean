import Postroom.Text.Split

namespace Postroom.Access

/-!
# Commands of the access protocol

The words of a command are separated by single spaces and hold none
themselves. A line of any other shape is no command.
-/

/-- One line of a user. -/
inductive Command where
  | login (user password : String)
  | list
  | showMail (number : String)
  | delete (number : String)
  | logout
  | quit
  /-- A line that is no command. -/
  | unknown (line : String)
  deriving Repr, DecidableEq

namespace Command

/-- The command that a line denotes. -/
def ofLine (line : String) : Command :=
  match Text.pieces ' ' line with
  | ["login", user, password] =>
      if user = "" then
        .unknown line
      else
        .login user password
  | ["list"] =>
      .list
  | ["show", number] =>
      .showMail number
  | ["delete", number] =>
      .delete number
  | ["logout"] =>
      .logout
  | ["quit"] =>
      .quit
  | _ =>
      .unknown line

/-- The line that denotes a command. -/
def line : Command → String
  | .login user password =>
      "login " ++ user ++ " " ++ password
  | .list =>
      "list"
  | .showMail number =>
      "show " ++ number
  | .delete number =>
      "delete " ++ number
  | .logout =>
      "logout"
  | .quit =>
      "quit"
  | .unknown text =>
      text

end Command

end Postroom.Access
