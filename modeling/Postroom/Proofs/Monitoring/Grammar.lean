import Postroom.Proofs.Monitoring.Reports

namespace Postroom.Monitoring

/-!
# Which payloads are reports

A payload is a line with padding behind it. A line tells of a report when it is
a server and an address with one blank character between them; nothing else may
be blank, and the server is a host and a port around its only colon. The main
statement says that a payload is read exactly when its line tells of a report.
The report is the only one that the line tells of, and it is read again when it
is written with a plain space.
-/

namespace Report

/-- A line tells of a report: both of its fields, and one blank between them. -/
structure IsToldBy
    (report : Report)
    (line : String) : Prop where
  unbroken : '\n' ∉ line.toList
  fields :
    ∃ blank,
      Text.isBlank blank = true ∧
        line = report.server ++ String.singleton blank ++ report.address
  server :
    ∀ character ∈ report.server.toList, Text.isBlank character = false
  address :
    ∀ character ∈ report.address.toList, Text.isBlank character = false
  addressed : report.address ≠ ""
  hostAndPort :
    ∃ host port,
      report.server = host ++ ":" ++ port ∧
        ':' ∉ host.toList ∧ ':' ∉ port.toList ∧
        host ≠ "" ∧ port ≠ ""

/-- A host and a port stand around the only colon, and neither is empty. -/
theorem isHostAndPort_eq_true_iff {text : String} :
    isHostAndPort text = true ↔
      ∃ host port,
        text = host ++ ":" ++ port ∧
          ':' ∉ host.toList ∧ ':' ∉ port.toList ∧
          host ≠ "" ∧ port ≠ "" := by
  constructor
  · intro valid
    unfold isHostAndPort at valid
    split at valid
    · rename_i host port halves
      obtain ⟨shape, wholeHost, wholePort⟩ :=
        Text.pieces_eq_pair_iff.1 halves
      simp only [Bool.and_eq_true, bne_iff_ne] at valid
      exact
        ⟨host, port, shape, wholeHost, wholePort, valid.1, valid.2⟩
    · cases valid
  · rintro ⟨host, port, rfl, wholeHost, wholePort, someHost, somePort⟩
    rw [isHostAndPort_append wholeHost wholePort]
    simp [someHost, somePort]

/-- A payload is read when the line before its padding tells of a report. -/
theorem ofPayload?_eq_some_iff
    {payload : String}
    {report : Report} :
    ofPayload? payload = some report ↔
      report.IsToldBy (Text.dropEndWhile isPadding payload) := by
  constructor
  · intro read
    simp only [ofPayload?, List.contains_eq_mem, decide_eq_true_eq] at read
    split at read
    · cases read
    · rename_i unbroken
      split at read
      · rename_i server address fields
        split at read
        · rename_i valid
          obtain rfl := Option.some.inj read
          obtain ⟨blank, isBlank, shape, wholeServer, wholeAddress⟩ :=
            Text.piecesBy_eq_pair_iff.1 fields
          simp only [Bool.and_eq_true, bne_iff_ne] at valid
          exact
            { unbroken := unbroken
              fields := ⟨blank, isBlank, shape⟩
              server := wholeServer
              address := wholeAddress
              addressed := valid.1
              hostAndPort := isHostAndPort_eq_true_iff.1 valid.2 }
        · cases read
      · cases read
  · intro told
    obtain ⟨blank, isBlank, shape⟩ := told.fields
    have fields :=
      Text.piecesBy_eq_pair_iff.2
        ⟨blank, isBlank, shape, told.server, told.address⟩
    have valid := isHostAndPort_eq_true_iff.2 told.hostAndPort
    have unbroken := told.unbroken
    rw [ofPayload?]
    simp only [List.contains_eq_mem, unbroken, fields, valid,
      told.addressed, decide_false, Bool.false_eq_true, ↓reduceIte,
      bne_iff_ne, ne_eq, not_false_eq_true, Bool.and_true]

namespace IsToldBy

variable
  {report : Report}
  {line : String}
  (told : report.IsToldBy line)

include told

/-- A line tells of one report only. -/
theorem eq
    {other : Report}
    (toldToo : other.IsToldBy line) :
    report = other := by
  obtain ⟨blank, isBlank, shape⟩ := told.fields
  obtain ⟨blankToo, isBlankToo, shapeToo⟩ := toldToo.fields
  have fields :=
    Text.piecesBy_eq_pair_iff.2
      ⟨blank, isBlank, shape, told.server, told.address⟩
  have fieldsToo :=
    Text.piecesBy_eq_pair_iff.2
      ⟨blankToo, isBlankToo, shapeToo, toldToo.server, toldToo.address⟩
  rw [fields] at fieldsToo
  obtain ⟨server, address⟩ := List.cons.inj fieldsToo
  cases report
  cases other
  simp_all

/-- The line ends as the address does. -/
theorem getLast?_eq :
    line.toList.getLast? = report.address.toList.getLast? := by
  obtain ⟨blank, _, rfl⟩ := told.fields
  have inhabited : report.address.toList ≠ [] := by
    rw [ne_eq, String.toList_eq_nil_iff]
    exact told.addressed
  rw [String.toList_append, List.getLast?_append, Option.or_of_isSome]
  exact List.getLast?_isSome.2 inhabited

/-- The payload of a report tells of it, whatever blank stood in the line. -/
theorem payload : report.IsToldBy report.payload where
  unbroken := by
    have newline : Text.isBlank '\n' = true := by
      decide
    have absent
        {text : String}
        (whole :
          ∀ character ∈ text.toList, Text.isBlank character = false) :
        '\n' ∉ text.toList := by
      intro member
      rw [whole '\n' member] at newline
      cases newline
    simp [Report.payload, absent told.server, absent told.address]
  fields :=
    ⟨' ', by decide, rfl⟩
  server :=
    told.server
  address :=
    told.address
  addressed :=
    told.addressed
  hostAndPort :=
    told.hostAndPort

/-- A report that was told without padding is read from its payload. -/
theorem ofPayload?_payload
    (ends :
      ∀ character, line.toList.getLast? = some character →
        isPadding character = false) :
    ofPayload? report.payload = some report := by
  have unpadded :
      Text.dropEndWhile isPadding report.payload = report.payload := by
    apply Text.dropEndWhile_of_getLast?
    rw [told.payload.getLast?_eq, ← told.getLast?_eq]
    exact ends
  rw [ofPayload?_eq_some_iff, unpadded]
  exact told.payload

end IsToldBy

/-- Three characters pad a payload. -/
theorem isPadding_eq_true_iff {character : Char} :
    isPadding character = true ↔
      character = '\x00' ∨ character = '\r' ∨ character = '\n' := by
  simp [isPadding, or_assoc]

end Report

/--
Every payload is a line with a longest row of padding behind it: characters
that are zero, a carriage return or a line feed. It is read as a report exactly
when the line tells of that report, which no other one shares, and the report
is read again from its two fields with one space between them.
-/
theorem reads_told_reports_only (payload : String) :
    ∃ line padding : String,
      payload = line ++ padding ∧
        (∀ character ∈ padding.toList,
          character = '\x00' ∨ character = '\r' ∨ character = '\n') ∧
        (∀ character, line.toList.getLast? = some character →
          ¬ (character = '\x00' ∨ character = '\r' ∨ character = '\n')) ∧
        (∀ report,
          Report.ofPayload? payload = some report ↔
            report.IsToldBy line) ∧
        (∀ report other : Report,
          report.IsToldBy line → other.IsToldBy line → report = other) ∧
        ∀ report : Report,
          report.IsToldBy line →
          Report.ofPayload? (report.server ++ " " ++ report.address) =
            some report := by
  obtain ⟨padding, shape, pads⟩ :=
    Text.exists_eq_dropEndWhile_append Report.isPadding payload
  have ends
      (character : Char)
      (last :
        (Text.dropEndWhile Report.isPadding payload).toList.getLast? =
          some character) :
      Report.isPadding character = false :=
    Text.getLast?_dropEndWhile last
  refine
    ⟨_, padding, shape, ?_, ?_,
      fun report => Report.ofPayload?_eq_some_iff,
      fun report other told toldToo => told.eq toldToo, ?_⟩
  · intro character member
    exact Report.isPadding_eq_true_iff.1 (pads character member)
  · intro character last
    rw [← Report.isPadding_eq_true_iff, ends character last]
    simp
  · intro report told
    exact told.ofPayload?_payload ends

/-- A wide blank separates as a space does, and padding of all kinds is ignored. -/
theorem reads_told_reports_only_padded :
    let payload := "127.0.0.1:11000\u3000trillian@earth.planet\r\n\x00\n"
    let report : Report := ⟨"127.0.0.1:11000", "trillian@earth.planet"⟩
    Report.ofPayload? payload = some report ∧
      Report.ofPayload? "127.0.0.1:11000 trillian@earth.planet" =
        some report := by
  intro payload report
  have read : Report.ofPayload? payload = some report := by
    decide
  obtain ⟨line, padding, _, _, _, reads, _, again⟩ :=
    reads_told_reports_only payload
  exact ⟨read, again report ((reads report).1 read)⟩

end Postroom.Monitoring
