import Postroom.Ascending
import Postroom.CommandLine.Arguments
import Postroom.CommandLine.Console
import Postroom.CommandLine.LogLevel
import Postroom.IpAddress
import Postroom.Monitoring.Collector
import Postroom.Settings

namespace Postroom.CommandLine

/-!
# Running a component

The program reads its configuration, sets up logging, binds the ports of the
component it runs as, and waits for the operator. The collector of delivery
reports then prints its statistics. Everything it learns from its surroundings
is given here as data, so a run is a function of it.
-/

/-- What a run of the program finds around it. -/
structure Surroundings where
  /-- The text of the configuration, or why it cannot be read. -/
  configuration : Except String String
  /-- Why a log file cannot be written, if that is so. -/
  logFileError? : String → Option String
  /-- Why a host and a port cannot be bound, if that is so. -/
  bindError? : String → UInt16 → Option String
  /-- Why a host has no address, if that is so. -/
  lookUpError? : String → Option String
  /-- The lines of standard input. -/
  console : List (List UInt8)
  /-- The datagrams that arrive while the component runs. -/
  datagrams : List (List UInt8)

/-- What a run of the program leaves behind. -/
structure Execution where
  exitCode : Nat
  /-- The lines on standard output that are not log lines. -/
  output : List String
  /-- The lines on standard error. -/
  complaints : List String
  /-- The levels of the lines that were logged. -/
  levels : List LogLevel
  /-- The log file that was opened. -/
  logFile : Option String
  /-- The answers to the datagrams. -/
  answers : List String

/-- The program's name and version. -/
def versionText : String :=
  "relaymail 0.1.0"

/-- A run that ends with an error before anything was logged. -/
def failed (complaints : List String) : Execution :=
  ⟨1, [], complaints, [], none, []⟩

/-- The line that reports an error. -/
def complaint (error : StartupError) : String :=
  "Error: " ++ error.message

/-- The error of a text that is no configuration. -/
def malformed : StartupError :=
  .configuration "config parse error"

/-- The line that reports that a log file cannot be written. -/
def loggingComplaint (reason : String) : String :=
  "Failed to initialize logging: " ++ (StartupError.io reason).message

/-- A host without the brackets around a version 6 address. -/
def bareHost (host : String) : String :=
  match SocketAddress.readBracketed? host with
  | some groups =>
      Ipv6.text groups
  | none =>
      host

/-- The hosts and ports that a component binds, in order. -/
def bindings
    (component : Component)
    (settings : Settings) :
    Except StartupError (List (String × UInt16)) := do
  match component with
  | .transfer =>
      let own ← settings.transfer
      return [(bareHost own.host, own.port)]
  | .mailbox =>
      let own ← settings.mailbox
      return [(own.host, own.submissionPort), (own.host, own.accessPort)]
  | .collector =>
      let own ← settings.collector
      return [(own.host, own.port)]

/-- The hosts that a component looks up as it starts. -/
def contacts
    (component : Component)
    (settings : Settings) :
    List String :=
  match component with
  | .transfer =>
      ((settings.transfer?.bind (·.collector)).map (·.host)).toList
  | .mailbox | .collector =>
      []

/-- The answers to some datagrams and the statistics behind them. -/
def collectDatagrams
    (statistics : Monitoring.Statistics) :
    List (List UInt8) →
    List String × Monitoring.Statistics
  | [] =>
      ([], statistics)
  | datagram :: rest =>
      let (answer, next) := Monitoring.collect statistics datagram
      let (others, last) := collectDatagrams next rest
      (answer :: others, last)

/-- The lines that show how often each key was counted. -/
def countLines (counts : Monitoring.Counts) : List String :=
  counts.listing.map fun (key, count) =>
    key ++ " " ++ Text.writeDecimal count

/-- The levels of the lines that a component logs while it runs. -/
def loggedLevels
    (configured : LogLevel)
    (answers : List String) :
    List LogLevel :=
  let warnings :=
    if answers.contains Monitoring.formatError then
      [LogLevel.warning]
    else
      []
  ([LogLevel.debug, LogLevel.info] ++ warnings).filter
    configured.isLogged

/-- Run a component whose ports are bound until the operator stops it. -/
def operate
    (component : Component)
    (level : LogLevel)
    (surroundings : Surroundings) :
    Execution :=
  let (answers, statistics) :=
    match component with
    | .collector =>
        collectDatagrams .empty surroundings.datagrams
    | .transfer | .mailbox =>
        ([], .empty)
  let levels := loggedLevels level answers
  match awaitShutdown surroundings.console with
  | .error reason =>
      ⟨1, [], [complaint (.io reason)], levels, none, answers⟩
  | .ok () =>
      let output :=
        match component with
        | .collector =>
            countLines statistics.servers ++ countLines statistics.addresses
        | .transfer | .mailbox =>
            []
      ⟨0, output, [], levels, none, answers⟩

/-- The reason of an error when a port is bound already. -/
def addressInUse : String :=
  "Address already in use (os error 98)"

/-- Bind hosts and ports in order, up to the first that cannot be bound. -/
def bindAll?
    (surroundings : Surroundings)
    (bound : List (String × UInt16)) :
    List (String × UInt16) →
    Option String
  | [] =>
      none
  | (host, port) :: rest =>
      if port ≠ 0 ∧ bound.contains (host, port) = true then
        some addressInUse
      else
        (surroundings.bindError? host port).or
          (bindAll? surroundings ((host, port) :: bound) rest)

/-- Start a component and run it. -/
def start
    (component : Component)
    (level? : Option String)
    (settings : Settings)
    (surroundings : Surroundings) :
    Execution :=
  let level := LogLevel.ofName (level?.getD settings.log.level)
  let logError? := settings.log.file.bind surroundings.logFileError?
  let logFile :=
    if logError?.isNone then settings.log.file else none
  let complaints := (logError?.map loggingComplaint).toList
  let execution :=
    match bindings component settings with
    | .error error =>
        failed [complaint error]
    | .ok places =>
        let lookUp? :=
          (contacts component settings).findSome?
            surroundings.lookUpError?
        match (bindAll? surroundings [] places).or lookUp? with
        | some reason =>
            failed [complaint (.io reason)]
        | none =>
            operate component level surroundings
  { execution with
    complaints := complaints ++ execution.complaints
    logFile := logFile }

/-- Run the program as it was asked to; help and usage are left to the caller. -/
def execute
    (component : Component)
    (level? : Option String)
    (surroundings : Surroundings) :
    Execution :=
  match surroundings.configuration with
  | .error reason =>
      failed [complaint (.io reason)]
  | .ok text =>
      match Settings.ofText? text with
      | none =>
          failed [complaint malformed]
      | some settings =>
          start component level? settings surroundings

/-- Why a host has no address, if that is so. -/
def lookUpError? (host : String) : Option String :=
  if (IpAddress.ofText? host).isSome ∨ host = "localhost" then
    none
  else
    some ("failed to lookup address information: " ++
      "Name or service not known")

/-- Whether an address belongs to a host that talks to itself only. -/
def isOwn (ip : IpAddress) : Bool :=
  ip.isUnspecified ||
    match ip with
    | .v4 octets =>
        octets.first == 127
    | .v6 groups =>
        groups.toList == [0, 0, 0, 0, 0, 0, 0, 1]

/-- Why an address of a host cannot be bound, if that is so. -/
def bindError? (host : String) (_ : UInt16) : Option String :=
  match IpAddress.ofText? host with
  | some ip =>
      if isOwn ip then
        none
      else
        some "Cannot assign requested address (os error 99)"
  | none =>
      lookUpError? host

end Postroom.CommandLine
