import Postroom.CommandLine.LogLevel
import Std.Sync.Mutex
import Std.Time

namespace Postroom.Live

/-!
# Logs

A running component writes one line for each thing worth knowing, to standard
output and, where one is configured, to a file. Lines of several threads do
not mix.
-/

open CommandLine (LogLevel)

/-- Where a component writes what happens. -/
structure Log where
  level : LogLevel
  file? : Option IO.FS.Handle
  /-- Held by the thread that writes. -/
  turn : Std.Mutex Unit

namespace Log

/-- A log that goes to standard output and perhaps to a file. -/
def opened
    (level : LogLevel)
    (file? : Option IO.FS.Handle) :
    BaseIO Log := do
  return ⟨level, file?, ← Std.Mutex.new ()⟩

/-- The present time of day and date. -/
def timeText : IO String := do
  let now ← Std.Time.Timestamp.now
  return (Std.Time.DateTime.ofTimestampWithZone now .UTC).format
    "uuuu-MM-dd'T'HH:mm:ss.SSSSSS'Z'"

/-- The start of a log line, as wide for every level. -/
def levelText (level : LogLevel) : String :=
  String.ofList (List.replicate (5 - level.word.length) ' ') ++ level.word

/-- Write a line if lines of its level are logged. -/
def write
    (log : Log)
    (level : LogLevel)
    (text : String) :
    BaseIO Unit := do
  if log.level.isLogged level then
    let written : IO Unit :=
      log.turn.atomically do
        let line :=
          (← timeText) ++ " " ++ levelText level ++ " " ++ text ++ "\n"
        let output ← IO.getStdout
        output.putStr line
        output.flush
        if let some file := log.file? then
          file.putStr line
          file.flush
    let _ ← written.toBaseIO

end Log

end Postroom.Live
