import Postroom.Authority
import Postroom.Monitoring.Report
import Postroom.Proofs.Address
import Postroom.Proofs.IpAddress
import Postroom.Proofs.Text.Pieces

namespace Postroom.Monitoring

/-!
# Which reports are read back

The two fields of a relay's report are visible texts, so the blank between them
is the only one and nothing of the payload passes for padding. What remains is
whether the first field is a host and a port around one colon. A dotted address
with its port is; a version 6 address has colons of its own, and the reports of
connections between such addresses are all taken for malformed.
-/

open Text (IsVisible)

/-- The senders under which a relay reports: readable addresses and its own. -/
def Reportable (sender : String) : Prop :=
  (∃ address, Address.ofText? sender = some address) ∨
    ∃ ip : IpAddress, sender = "mailer@" ++ ip.text

namespace Reportable

variable {sender : String} (reportable : Reportable sender)

include reportable

theorem isVisible : IsVisible sender := by
  rcases reportable with ⟨address, read⟩ | ⟨ip, rfl⟩
  · obtain ⟨rfl, halves⟩ := Address.ofText?_eq_some_iff.1 read
    exact (Address.isValid_iff.2 halves).isVisible_text
  · exact Text.isVisible_append.2 ⟨by decide, ip.isVisible_text⟩

theorem ne_empty : sender ≠ "" := by
  rcases reportable with ⟨address, read⟩ | ⟨ip, rfl⟩
  · obtain ⟨rfl, _⟩ := Address.ofText?_eq_some_iff.1 read
    simp [Address.text]
  · simp

end Reportable

namespace Report

/-- A colon is cut at, wherever it stands. -/
theorem pieces_colon
    (before behind : String) :
    Text.pieces ':' (before ++ ":" ++ behind) =
      Text.pieces ':' before ++ Text.pieces ':' behind :=
  Text.pieces_append before behind

/-- Two texts around the only colon are a host and a port. -/
theorem isHostAndPort_append
    {host port : String}
    (wholeHost : ':' ∉ host.toList)
    (wholePort : ':' ∉ port.toList) :
    isHostAndPort (host ++ ":" ++ port) =
      (host != "" && port != "") := by
  rw [isHostAndPort, pieces_colon, Text.pieces_of_not_mem wholeHost,
    Text.pieces_of_not_mem wholePort]
  rfl

/-- Around more than one colon there are more than two pieces. -/
theorem isHostAndPort_of_hasTwoColons
    {text : String}
    (colons : HasTwoColons text) :
    isHostAndPort text = false := by
  obtain ⟨first, second, third, rfl⟩ := colons
  unfold isHostAndPort
  split
  · rename_i host port halves
    rw [pieces_colon, pieces_colon] at halves
    have inFirst := List.length_pos_iff.2 (Text.pieces_ne_nil ':' first)
    have inSecond := List.length_pos_iff.2 (Text.pieces_ne_nil ':' second)
    have inThird := List.length_pos_iff.2 (Text.pieces_ne_nil ':' third)
    have two := congrArg List.length halves
    simp only [List.length_append, List.length_cons, List.length_nil]
      at two
    omega
  · rfl

theorem isHostAndPort_v4
    (octets : Ipv4)
    (port : UInt16) :
    isHostAndPort (SocketAddress.text ⟨.v4 octets, port⟩) = true := by
  have parts :=
    isHostAndPort_append octets.colon_not_mem_text
      (Text.colon_not_mem_writeDecimal port.toNat)
  rw [SocketAddress.text, parts]
  simp [octets.text_ne_empty, Text.writeDecimal_ne_empty]

theorem isHostAndPort_v6
    (groups : Ipv6)
    (port : UInt16) :
    isHostAndPort (SocketAddress.text ⟨.v6 groups, port⟩) = false := by
  apply isHostAndPort_of_hasTwoColons
  simp only [SocketAddress.text]
  exact (((Ipv6.hasTwoColons_text groups).prepend "[").append _).append _

/-- The characters of visible texts and of the one blank between them. -/
theorem range_of_mem_payload
    {report : Report}
    (visibleServer : IsVisible report.server)
    (visibleAddress : IsVisible report.address)
    {character : Char}
    (member : character ∈ report.payload.toList) :
    0x20 ≤ character.toNat ∧ character.toNat < 0x7F := by
  simp only [payload, String.toList_append, List.mem_append] at member
  rcases member with (inServer | isBlank) | inAddress
  · have range := visibleServer character inServer
    omega
  · have blank : character = ' ' := by
      simpa using isBlank
    rw [blank]
    decide
  · have range := visibleAddress character inAddress
    omega

/-- Whatever pads a payload is a control character. -/
theorem lt_of_isPadding
    {character : Char}
    (padding : isPadding character = true) :
    character.toNat < 0x20 := by
  simp only [isPadding, Bool.or_eq_true, beq_iff_eq] at padding
  rcases padding with (rfl | rfl) | rfl <;> decide

/-- A report of visible texts is read back when its server is a host and a port. -/
theorem ofPayload?_payload
    {report : Report}
    (visibleServer : IsVisible report.server)
    (visibleAddress : IsVisible report.address)
    (addressed : report.address ≠ "") :
    ofPayload? report.payload =
      if isHostAndPort report.server then some report else none := by
  have unpadded :
      ∀ character ∈ report.payload.toList,
        isPadding character = false := by
    intro character member
    have range :=
      range_of_mem_payload visibleServer visibleAddress member
    rw [← Bool.not_eq_true]
    intro padding
    have control := lt_of_isPadding padding
    omega
  have line :
      Text.dropEndWhile isPadding report.payload = report.payload :=
    Text.dropEndWhile_of_none unpadded
  have oneLine : '\n' ∉ report.payload.toList := by
    intro member
    exact absurd (unpadded _ member) (by decide)
  have fields :
      Text.piecesBy Text.isBlank report.payload =
        [report.server, report.address] := by
    have apart :=
      @Text.piecesBy_append ' ' Text.isBlank (by decide)
        report.server report.address
    rwa [Text.piecesBy_of_none fun _ => visibleServer.isBlank_eq_false,
      Text.piecesBy_of_none fun _ => visibleAddress.isBlank_eq_false]
      at apart
  simp [ofPayload?, line, oneLine, fields, addressed]

end Report

/--
Whoever the sender is, a report on a connection from a version 4 address is read
back as it was written, and one from a version 6 address is no report at all.
-/
theorem reads_back_version4_only
    (carrier : SocketAddress)
    {sender : String}
    (reportable : Reportable sender) :
    (∀ octets, carrier.ip = .v4 octets →
        Report.ofPayload? (carrier.text ++ " " ++ sender) =
          some ⟨carrier.text, sender⟩) ∧
      ∀ groups, carrier.ip = .v6 groups →
        Report.ofPayload? (carrier.text ++ " " ++ sender) = none := by
  have read :
      Report.ofPayload? (carrier.text ++ " " ++ sender) =
        if Report.isHostAndPort carrier.text then
          some ⟨carrier.text, sender⟩
        else
          none :=
    @Report.ofPayload?_payload ⟨carrier.text, sender⟩
      carrier.isVisible_text reportable.isVisible reportable.ne_empty
  obtain ⟨ip, port⟩ := carrier
  constructor
  · rintro octets rfl
    rw [read, if_pos (Report.isHostAndPort_v4 octets port)]
  · rintro groups rfl
    rw [read, Report.isHostAndPort_v6 groups port]
    rfl

theorem reads_back_version4_only_of_mailer :
    let sender := "mailer@::1"
    Reportable sender ∧
      Report.ofPayload? "127.0.0.1:40000 mailer@::1" =
        some ⟨"127.0.0.1:40000", sender⟩ ∧
      Report.ofPayload? "[::1]:40000 mailer@::1" = none := by
  intro sender
  let loopback : Ipv6 := #v[0, 0, 0, 0, 0, 0, 0, 1]
  have reportable : Reportable sender :=
    Or.inr ⟨.v6 loopback, by decide⟩
  have dotted : SocketAddress.text ⟨.loopback, 40000⟩ = "127.0.0.1:40000" := by
    decide
  have bracketed : SocketAddress.text ⟨.v6 loopback, 40000⟩ = "[::1]:40000" := by
    decide
  refine ⟨reportable, ?_, ?_⟩
  · have read :=
      (reads_back_version4_only ⟨.loopback, 40000⟩ reportable).1 _ rfl
    rwa [dotted] at read
  · have lost :=
      (reads_back_version4_only ⟨.v6 loopback, 40000⟩ reportable).2 _ rfl
    rwa [bracketed] at lost

/--
An authority is read from the text of a socket address of version 6, which is
cut at its last colon there; the report with that text is lost.
-/
theorem version6_report_is_lost :
    let carrier : SocketAddress := ⟨.v6 #v[0, 0, 0, 0, 0, 0, 0, 1], 40000⟩
    carrier.text = "[::1]:40000" ∧
      Authority.ofText? carrier.text = some ⟨"[::1]", 40000⟩ ∧
      Address.ofText? "ann@home.org" = some ⟨"ann", "home.org"⟩ ∧
      Report.ofPayload? (carrier.text ++ " " ++ "ann@home.org") = none := by
  decide

end Postroom.Monitoring
