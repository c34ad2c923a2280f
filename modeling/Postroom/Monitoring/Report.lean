import Postroom.Text.Blank
import Postroom.Text.Split

namespace Postroom.Monitoring

/-!
# Delivery reports

A report names the end of the connection that carried an email and the sender
of that email, on one line with one blank between them. Padding behind the
line is ignored; every other deviation makes the payload no report.
-/

/-- Which server delivered mail of which sender. -/
structure Report where
  /-- The host and port of the reporting server. -/
  server : String
  address : String
  deriving Repr, DecidableEq

namespace Report

/-- The payload that carries a report. -/
def payload (report : Report) : String :=
  report.server ++ " " ++ report.address

/-- The characters that pad a payload. -/
def isPadding (character : Char) : Bool :=
  character == '\x00' || character == '\r' || character == '\n'

/-- Whether a text is two nonempty texts around its only colon. -/
def isHostAndPort (text : String) : Bool :=
  match Text.pieces ':' text with
  | [host, port] =>
      host != "" && port != ""
  | _ =>
      false

/-- The report that a payload carries. -/
def ofPayload? (payload : String) : Option Report :=
  let line := Text.dropEndWhile isPadding payload
  if line.toList.contains '\n' then
    none
  else
    match Text.piecesBy Text.isBlank line with
    | [server, address] =>
        if address != "" && isHostAndPort server then
          some ⟨server, address⟩
        else
          none
    | _ =>
        none

end Report

end Postroom.Monitoring
