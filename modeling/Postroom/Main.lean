import Postroom.CommandLine.Usage
import Postroom.Live.Component

namespace Postroom

/-!
# The program

The program reads its arguments and its configuration, starts one component,
and lets it work until the operator stops it.
-/

open CommandLine (Component Invocation LogLevel)

/-- Print lines to standard output. -/
def printLines (lines : List String) : IO Unit := do
  for line in lines do
    IO.println line

/-- Print lines to standard error. -/
def complain (lines : List String) : IO Unit := do
  for line in lines do
    IO.eprintln line

/-- The text of a file, or why it cannot be read. -/
def readText (path : String) : IO (Except String String) := do
  match ← (IO.FS.readBinFile path).toBaseIO with
  | .error error =>
      return .error (Live.reason error)
  | .ok content =>
      let bytes := Live.bytesOf content
      let text := Text.decode bytes
      if Text.encode text = bytes then
        return .ok text
      else
        return .error CommandLine.notText

/-- The directory that a path leads through. -/
def parentOf (path : String) : String :=
  match Text.cutLast? '/' path with
  | some (parent, _) =>
      parent
  | none =>
      ""

/-- Open a log file for writing at its end, with the directories that it needs. -/
def openLogFile (path : String) : IO IO.FS.Handle := do
  if parentOf path ≠ "" then
    match ← (IO.FS.createDirAll (parentOf path)).toBaseIO with
    | .ok () | .error (.alreadyExists ..) =>
        pure ()
    | .error error =>
        throw error
  IO.FS.Handle.mk path .append

/-- Set up the log of a component; without its file if that cannot be opened. -/
def openLog
    (level : LogLevel)
    (file? : Option String) :
    IO Live.Log := do
  match file? with
  | none =>
      Live.Log.opened level none
  | some path =>
      match ← (openLogFile path).toBaseIO with
      | .ok file =>
          Live.Log.opened level (some file)
      | .error error =>
          complain [CommandLine.loggingComplaint (Live.reason error)]
          Live.Log.opened level none

/-- The next line of a stream behind some bytes of it, with its line feed. -/
partial def readLineFrom
    (stream : IO.FS.Stream)
    (earlier : ByteArray) :
    IO ByteArray := do
  let next ← stream.read 1
  if next.isEmpty ∨ next[0]? = some Wire.lineFeed then
    return earlier ++ next
  else
    readLineFrom stream (earlier ++ next)

/-- Read the operator's lines until one stops the component. -/
partial def awaitOperator
    (console : IO.FS.Stream) :
    BaseIO (Except String Unit) := do
  match ← (readLineFrom console .empty).toBaseIO with
  | .error error =>
      return .error (Live.reason error)
  | .ok line =>
      if line.isEmpty then
        return .ok ()
      else
        match CommandLine.stops (Live.bytesOf line) with
        | .error failure =>
            return .error failure
        | .ok true =>
            return .ok ()
        | .ok false =>
            awaitOperator console

/-- Run a component with its settings until the operator stops it. -/
def runComponent
    (component : Component)
    (level? : Option String)
    (settings : Settings) :
    IO UInt32 := do
  let level := LogLevel.ofName (level?.getD settings.log.level)
  let log ← openLog level settings.log.file
  match ← (Live.startComponent component log settings).run with
  | .error error =>
      complain [CommandLine.complaint error]
      return 1
  | .ok running =>
      log.write .info "type 'shutdown' or close standard input to stop"
      let stopped ← awaitOperator (← IO.getStdin)
      let lines ← running.finish
      match stopped with
      | .error failure =>
          complain [CommandLine.complaint (.io failure)]
          return 1
      | .ok () =>
          printLines lines
          return 0

/-- Run the program as its arguments ask for. -/
def runProgram (arguments : List String) : IO UInt32 := do
  match Invocation.ofArguments arguments with
  | .help =>
      printLines CommandLine.helpLines
      return 0
  | .version =>
      printLines [CommandLine.versionText]
      return 0
  | .usageError =>
      complain CommandLine.usageComplaints
      return 2
  | .run component path level? =>
      match ← readText path with
      | .error failure =>
          complain [CommandLine.complaint (.io failure)]
          return 1
      | .ok text =>
          match Settings.ofText? text with
          | none =>
              complain [CommandLine.complaint CommandLine.malformed]
              return 1
          | some settings =>
              runComponent component level? settings

end Postroom

def main (arguments : List String) : IO UInt32 :=
  Postroom.runProgram arguments
