import Mathlib.Algebra.Order.BigOperators.Group.List
import Mathlib.Algebra.Order.Group.Nat
import Postroom.Monitoring.Collector
import Postroom.Proofs.Monitoring.Reports

namespace Postroom.Monitoring

/-!
# What a collector counts

Counts tally a list of keys when each key was counted as often as it stands in
the list and no other key was counted. A collector tallies the reports that it
reads. It reads the beginning of a datagram only, so a long report is counted
for a shortened sender; a report that outgrows every datagram is not counted.
Hence the senders are counted exactly when all reports fit the collector's
window, and the servers exactly when all reports fit a datagram.
-/

open Text (IsVisible)

namespace Counts

/-- The counts of some keys and of no others. -/
def Tallies
    (counts : Counts)
    (keys : List String) :
    Prop :=
  ∀ key,
    count counts key = keys.count key ∧
      (key ∈ counts.names ↔ key ∈ keys)

theorem tallies_empty : Tallies .empty [] := by
  intro key
  exact ⟨rfl, Iff.rfl⟩

namespace Tallies

variable
  {counts : Counts}
  {keys : List String}
  (tallies : Tallies counts keys)

include tallies

theorem increment (key : String) :
    Tallies (increment counts key) (keys ++ [key]) := by
  intro other
  constructor
  · rw [count_increment, List.count_append, List.count_singleton,
      (tallies key).1, (tallies other).1]
    by_cases same : other = key
    · simp [same]
    · simp [same, Ne.symm same]
  · rw [List.mem_append, List.mem_singleton, ← (tallies other).2, Or.comm]
    exact Directory.mem_names_setEntry

/-- Counts tally the same keys in any order, and no others. -/
theorem iff_perm {others : List String} :
    Tallies counts others ↔ keys.Perm others := by
  constructor
  · intro also
    rw [List.perm_iff_count]
    intro key
    rw [← (tallies key).1, ← (also key).1]
  · intro permuted key
    rw [← permuted.count_eq, ← permuted.mem_iff]
    exact tallies key

end Tallies

end Counts

namespace Statistics

/-- Both counts of some reports and of no others. -/
structure Tallies
    (statistics : Statistics)
    (reports : List Report) :
    Prop where
  servers : statistics.servers.Tallies (reports.map Report.server)
  addresses : statistics.addresses.Tallies (reports.map Report.address)

theorem tallies_empty : empty.Tallies [] :=
  ⟨Counts.tallies_empty, Counts.tallies_empty⟩

namespace Tallies

variable
  {statistics : Statistics}
  {reports : List Report}
  (tallies : statistics.Tallies reports)

include tallies

theorem record (report : Report) :
    (statistics.record report).Tallies (reports ++ [report]) where
  servers := by
    rw [List.map_append]
    exact tallies.servers.increment report.server
  addresses := by
    rw [List.map_append]
    exact tallies.addresses.increment report.address

/-- A datagram adds the report that is read from it, if there is one. -/
theorem collect (datagram : List UInt8) :
    (collect statistics datagram).2.Tallies
      (reports ++ (readDatagram? datagram).toList) := by
  cases read : readDatagram? datagram with
  | none =>
      simpa [Monitoring.collect, read] using tallies
  | some report =>
      simpa [Monitoring.collect, read] using tallies.record report

end Tallies

theorem collectAll_cons
    (statistics : Statistics)
    (datagram : List UInt8)
    (rest : List (List UInt8)) :
    Monitoring.collectAll statistics (datagram :: rest) =
      Monitoring.collectAll (Monitoring.collect statistics datagram).2
        rest :=
  List.foldl_cons

/-- Some datagrams add the reports that are read from them. -/
theorem Tallies.collectAll
    {statistics : Statistics}
    {reports : List Report}
    (tallies : statistics.Tallies reports)
    (datagrams : List (List UInt8)) :
    (collectAll statistics datagrams).Tallies
      (reports ++ datagrams.filterMap readDatagram?) := by
  induction datagrams generalizing statistics reports with
  | nil =>
      simpa [Monitoring.collectAll] using tallies
  | cons datagram rest inductionHypothesis =>
      have counted := inductionHypothesis (tallies.collect datagram)
      have read :
          (datagram :: rest).filterMap readDatagram? =
            (readDatagram? datagram).toList ++
              rest.filterMap readDatagram? := by
        cases report : readDatagram? datagram <;> simp [report]
      rwa [collectAll_cons, read, ← List.append_assoc]

end Statistics

namespace Report

/-- The bytes that a report takes. -/
def size (report : Report) : Nat :=
  (Text.encode report.payload).length

theorem datagram?_eq (report : Report) :
    datagram? report =
      if report.size ≤ largestDatagram then
        some (Text.encode report.payload)
      else
        none :=
  rfl

/-- What a collector reads of a report: the sender may lose its end. -/
def clipped (report : Report) : Report :=
  let room := datagramWindow - (report.server.toList.length + 1)
  ⟨report.server, String.ofList (report.address.toList.take room)⟩

theorem length_clipped_le (report : Report) :
    report.clipped.address.toList.length ≤ report.address.toList.length := by
  simp [clipped]

/-- A report that a relay with a version 4 connection makes. -/
structure IsDotted (report : Report) : Prop where
  server :
    ∃ octets port, report.server = SocketAddress.text ⟨.v4 octets, port⟩
  address : Reportable report.address

namespace IsDotted

variable {report : Report} (dotted : report.IsDotted)

include dotted

theorem isVisible_server : IsVisible report.server := by
  obtain ⟨octets, port, written⟩ := dotted.server
  rw [written]
  exact SocketAddress.isVisible_text _

theorem isHostAndPort_server :
    isHostAndPort report.server = true := by
  obtain ⟨octets, port, written⟩ := dotted.server
  rw [written]
  exact isHostAndPort_v4 octets port

/-- Four octets, a colon and a port leave much room in the window. -/
theorem length_server_le : report.server.toList.length ≤ 22 := by
  obtain ⟨octets, port, written⟩ := dotted.server
  rw [written]
  exact SocketAddress.length_text_v4_le octets port

/-- A dotted report is written in ASCII. -/
theorem short_of_mem_payload :
    ∀ character ∈ report.payload.toList, character.toNat < 0x80 := by
  intro character member
  have range :=
    range_of_mem_payload dotted.isVisible_server
      dotted.address.isVisible member
  omega

theorem size_eq :
    report.size =
      report.server.toList.length + 1 + report.address.toList.length := by
  have blank : " ".toList.length = 1 := by
    decide
  rw [size, Text.length_encode_of_short dotted.short_of_mem_payload]
  simp only [payload, String.toList_append, List.length_append, blank]

/-- The window is filled with the clipped report. -/
theorem take_payload :
    String.ofList (report.payload.toList.take datagramWindow) =
      report.clipped.payload := by
  have few := dotted.length_server_le
  have blank : " ".toList.length = 1 := by
    decide
  have front :
      (report.server.toList ++ " ".toList).length =
        report.server.toList.length + 1 := by
    rw [List.length_append, blank]
  have within :
      (report.server.toList ++ " ".toList).length ≤ datagramWindow := by
    rw [front, datagramWindow]
    omega
  simp only [← String.toList_inj, String.toList_ofList, payload,
    clipped, String.toList_append]
  rw [List.take_append, List.take_of_length_le within, front]

/-- A collector reads the clipped report. -/
theorem readDatagram?_encode :
    readDatagram? (Text.encode report.payload) = some report.clipped := by
  have addressed : report.clipped.address ≠ "" := by
    have few := dotted.length_server_le
    have inhabited := dotted.address.ne_empty
    rw [ne_eq, ← String.toList_eq_nil_iff] at inhabited ⊢
    simp only [clipped, String.toList_ofList, List.take_eq_nil_iff,
      inhabited, or_false, datagramWindow]
    omega
  have read :=
    @ofPayload?_payload report.clipped dotted.isVisible_server
      (dotted.address.isVisible.take _) addressed
  rw [readDatagram?, Text.decode_take_encode dotted.short_of_mem_payload,
    dotted.take_payload, read]
  exact if_pos dotted.isHostAndPort_server

/-- Of a report that fits a datagram, the collector reads the clipped one. -/
theorem bind_readDatagram? :
    (datagram? report).bind readDatagram? =
      if report.size ≤ largestDatagram then
        some report.clipped
      else
        none := by
  rw [datagram?_eq]
  by_cases fits : report.size ≤ largestDatagram
  · rw [if_pos fits, if_pos fits, Option.bind_some]
    exact dotted.readDatagram?_encode
  · rw [if_neg fits, if_neg fits, Option.bind_none]

/-- A report that overflows the window loses some of its sender. -/
theorem length_clipped_lt (overflows : datagramWindow < report.size) :
    report.clipped.address.toList.length < report.address.toList.length := by
  have few := dotted.length_server_le
  rw [dotted.size_eq, datagramWindow] at overflows
  simp only [clipped, String.toList_ofList, List.length_take,
    datagramWindow]
  omega

/-- A report that fits the window is read in full. -/
theorem clipped_eq_self (fits : report.size ≤ datagramWindow) :
    report.clipped = report := by
  rw [dotted.size_eq] at fits
  have whole :
      report.address.toList.length ≤
        datagramWindow - (report.server.toList.length + 1) := by
    omega
  rw [clipped, List.take_of_length_le whole, String.ofList_toList]

end IsDotted

/-- Reports as a collector counts them: those that fit a datagram, clipped. -/
def counted (reports : List Report) : List Report :=
  (reports.filter fun report => report.size ≤ largestDatagram).map clipped

/-- As many reports are counted as were made, if all of them fit a datagram. -/
theorem length_counted_eq_iff {reports : List Report} :
    (counted reports).length = reports.length ↔
      ∀ report ∈ reports, report.size ≤ largestDatagram := by
  simp [counted, List.length_filter_eq_length_iff]

theorem counted_of_sendable
    {reports : List Report}
    (sendable : ∀ report ∈ reports, report.size ≤ largestDatagram) :
    counted reports = reports.map clipped := by
  rw [counted, List.filter_eq_self.2 (by simpa using sendable)]

/-- The servers are all counted exactly when every report fits a datagram. -/
theorem servers_perm_iff {reports : List Report} :
    ((counted reports).map server).Perm (reports.map server) ↔
      ∀ report ∈ reports, report.size ≤ largestDatagram := by
  constructor
  · intro permuted
    have lengths := permuted.length_eq
    rwa [List.length_map, List.length_map, length_counted_eq_iff] at lengths
  · intro sendable
    rw [counted_of_sendable sendable, List.map_map]
    exact List.Perm.refl _

section Lists

variable
  {reports : List Report}
  (dotted : ∀ report ∈ reports, report.IsDotted)

include dotted

/-- What a collector reads when it is sent some reports. -/
theorem filterMap_readDatagram? :
    (reports.filterMap datagram?).filterMap readDatagram? =
      counted reports := by
  rw [List.filterMap_filterMap]
  induction reports with
  | nil =>
      rfl
  | cons first rest inductionHypothesis =>
      obtain ⟨dottedFirst, dottedRest⟩ := List.forall_mem_cons.1 dotted
      have behind := inductionHypothesis dottedRest
      rw [List.filterMap_cons, dottedFirst.bind_readDatagram?, behind,
        counted, counted, List.filter_cons]
      by_cases fits : first.size ≤ largestDatagram
      · simp [fits]
      · simp [fits]

/-- The senders are all counted exactly when every report fits the window. -/
theorem addresses_perm_iff :
    ((counted reports).map address).Perm (reports.map address) ↔
      ∀ report ∈ reports, report.size ≤ datagramWindow := by
  constructor
  · intro permuted
    have sendable := permuted.length_eq
    rw [List.length_map, List.length_map, length_counted_eq_iff]
      at sendable
    -- No report is missing, so a shortened sender would show in the sum.
    have characters :=
      (permuted.map fun sender => sender.toList.length).sum_eq
    rw [counted_of_sendable sendable] at characters
    simp only [List.map_map, Function.comp_def] at characters
    intro report member
    by_contra overflows
    have fewer :=
      List.sum_lt_sum
        (fun report => report.clipped.address.toList.length)
        (fun report => report.address.toList.length)
        (fun report _ => length_clipped_le report)
        ⟨report, member,
          (dotted report member).length_clipped_lt
            (Nat.lt_of_not_le overflows)⟩
    omega
  · intro fit
    have sendable : ∀ report ∈ reports, report.size ≤ largestDatagram := by
      intro report member
      exact Nat.le_trans (fit report member) (by decide)
    have clips : reports.map clipped = reports := by
      rw [List.map_congr_left fun report member =>
          (dotted report member).clipped_eq_self (fit report member),
        List.map_id']
    rw [counted_of_sendable sendable, clips]

/-- A collector that is sent some reports tallies them as it counts them. -/
theorem tallies_counted :
    (collectAll .empty (reports.filterMap datagram?)).Tallies
      (counted reports) := by
  have tallies :=
    Statistics.tallies_empty.collectAll (reports.filterMap datagram?)
  rwa [List.nil_append, filterMap_readDatagram? dotted] at tallies

end Lists

end Report

end Postroom.Monitoring
