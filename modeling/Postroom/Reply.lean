import Postroom.Text.Letters

namespace Postroom

/-!
# Replies

Both line protocols answer a command with at least one line. A success begins
with `ok`, a failure with `error`, and exactly one reply says that the session
is over.
-/

/-- One or more lines that answer a command. -/
structure Reply where
  /-- The line that says how the command ended. -/
  first : String
  more : List String
  deriving Repr, DecidableEq

namespace Reply

/-- The lines of a reply, in order. -/
def lines (reply : Reply) : List String :=
  reply.first :: reply.more

/-- The reply that consists of one line. -/
def line (text : String) : Reply :=
  ⟨text, []⟩

/-- Plain success. -/
def ok : Reply :=
  line "ok"

/-- Success with a detail behind it. -/
def okWith (detail : String) : Reply :=
  line ("ok " ++ detail)

/-- The first words of a server, which name its protocol. -/
def greeting (protocol : String) : Reply :=
  okWith protocol

/-- The answer that ends a session. -/
def bye : Reply :=
  line "ok bye"

/-- Failure with its reason. -/
def error (message : String) : Reply :=
  line ("error " ++ message)

/-- A listing, which is plain success when it has no lines. -/
def listing : List String → Reply
  | [] =>
      ok
  | first :: more =>
      ⟨first, more⟩

/-- A reply as it is sent: every line with a line feed behind it. -/
def wire (reply : Reply) : String :=
  String.join (reply.lines.map (· ++ "\n"))

/-- Whether a reply reports success. -/
def isOk (reply : Reply) : Bool :=
  reply.first == "ok" || Text.startsWith "ok " reply.first

/-- Whether a reply reports failure. -/
def isError (reply : Reply) : Bool :=
  Text.startsWith "error" reply.first

/-- Whether a reply ends the session. -/
def isBye (reply : Reply) : Bool :=
  reply == bye

end Reply

end Postroom
