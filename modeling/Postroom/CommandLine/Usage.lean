import Postroom.CommandLine.Arguments
import Postroom.CommandLine.Program

namespace Postroom.CommandLine

/-!
# Usage

What the program says about itself when it is asked for help, and when it does
not understand its arguments.
-/

/-- The line that shows how the program is called. -/
def usageLine : String :=
  "Usage: relaymail [OPTIONS] <COMMAND>"

/-- The help on the program. -/
def helpLines : List String :=
  [
    "Mail relay and mailbox servers speaking line-based protocols",
    "",
    usageLine,
    "",
    "Commands:",
    "  transfer    Accept submissions and relay them to mailbox servers",
    "  mailbox     Store relayed mail and serve it to its users",
    "  monitoring  Collect delivery reports",
    "  help        Print this message",
    "",
    "Options:",
    "  -c, --config <CONFIG>        Path to the configuration file " ++
      "[default: " ++ defaultConfiguration ++ "]",
    "      --log-level <LOG_LEVEL>  Override the configured log level " ++
      "(trace, debug, info, warn, error)",
    "  -h, --help                   Print help",
    "  -V, --version                Print version"
  ]

/-- What the program says about arguments that make no sense. -/
def usageComplaints : List String :=
  [
    "error: the arguments make no sense",
    "",
    usageLine,
    "",
    "For more information, try '--help'."
  ]

end Postroom.CommandLine
