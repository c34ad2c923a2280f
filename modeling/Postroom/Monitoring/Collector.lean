import Postroom.Monitoring.Statistics
import Postroom.Text.Utf8

namespace Postroom.Monitoring

/-!
# Collectors and reporters

Reports travel in datagrams. A collector looks at the beginning of each
datagram only, counts it if it carries a report, and answers it either way. A
reporter waits for that answer.
-/

/-- The answer to a datagram that carries a report. -/
def success : String :=
  "success"

/-- The answer to every other datagram. -/
def formatError : String :=
  "error provided message does not fit the expected format: " ++
    "<host>:<port> <email-address>"

/-- The bytes that a collector looks at and that a reporter's answer may have. -/
def datagramWindow : Nat :=
  1024

/-- The largest payload that one datagram can carry. -/
def largestDatagram : Nat :=
  65507

/-- The report that a datagram carries. -/
def readDatagram? (datagram : List UInt8) : Option Report :=
  Report.ofPayload? (Text.decode (datagram.take datagramWindow))

/-- Count a datagram and answer it. -/
def collect
    (statistics : Statistics)
    (datagram : List UInt8) :
    String × Statistics :=
  match readDatagram? datagram with
  | none =>
      (formatError, statistics)
  | some report =>
      (success, statistics.record report)

/-- The statistics after some datagrams. -/
def collectAll
    (statistics : Statistics)
    (datagrams : List (List UInt8)) :
    Statistics :=
  datagrams.foldl
    (fun current datagram => (collect current datagram).2)
    statistics

/-- The datagram that carries a report, unless it is too large to be sent. -/
def datagram? (report : Report) : Option (List UInt8) :=
  let bytes := Text.encode report.payload
  if bytes.length ≤ largestDatagram then
    some bytes
  else
    none

/-- The collector's answer as a reporter reads it. -/
def readAnswer (answer : List UInt8) : String :=
  Text.dropEndWhile (· == '\x00')
    (Text.decode (answer.take datagramWindow))

end Postroom.Monitoring
