import Postroom.Text.Letters

namespace Postroom.CommandLine

/-!
# Log levels

A component logs a line only if its level is at least as urgent as the level
that was configured. A level of an unknown name counts as `info`.
-/

/-- How urgent a log line is, least urgent first. -/
inductive LogLevel where
  | trace
  | debug
  | info
  | warning
  | error
  deriving Repr, DecidableEq

namespace LogLevel

/-- The level of a name, whatever the case of its letters. -/
def ofName (name : String) : LogLevel :=
  match Text.asciiLower name with
  | "trace" =>
      .trace
  | "debug" =>
      .debug
  | "warn" | "warning" =>
      .warning
  | "error" =>
      .error
  | _ =>
      .info

/-- The place of a level in the order of urgency. -/
def rank : LogLevel → Nat
  | .trace =>
      0
  | .debug =>
      1
  | .info =>
      2
  | .warning =>
      3
  | .error =>
      4

/-- The word that begins a log line of a level. -/
def word : LogLevel → String
  | .trace =>
      "TRACE"
  | .debug =>
      "DEBUG"
  | .info =>
      "INFO"
  | .warning =>
      "WARN"
  | .error =>
      "ERROR"

/-- Whether a line of some level is logged at a configured level. -/
def isLogged (configured line : LogLevel) : Bool :=
  configured.rank ≤ line.rank

end LogLevel

end Postroom.CommandLine
