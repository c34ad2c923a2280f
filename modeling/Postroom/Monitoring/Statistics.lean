import Postroom.Ascending
import Postroom.Directory
import Postroom.Monitoring.Report

namespace Postroom.Monitoring

/-!
# Statistics

Reports are counted per server and per sender address. A listing shows the
counts by ascending key.
-/

/--
How often each key was counted. A report adds one to the count of a key, and a
collector starts from nothing. A count of 64 bits would run over only behind
2^64 reports, which takes more than five hundred years at one report each
nanosecond, so counts have no bound here.
-/
abbrev Counts :=
  Directory Nat

namespace Counts

/-- How often a key was counted. -/
def count
    (counts : Counts)
    (key : String) :
    Nat :=
  (counts.find? key).getD 0

/-- Count a key once more. -/
def increment
    (counts : Counts)
    (key : String) :
    Counts :=
  counts.set key (count counts key + 1)

/-- The counted keys in ascending order, with their counts. -/
def listing (counts : Counts) : List (String × Nat) :=
  (ascending counts.names).map fun key => (key, count counts key)

@[simp] theorem count_empty (key : String) :
    count Directory.empty key = 0 :=
  rfl

/-- Counting a key changes its own count only. -/
@[simp] theorem count_increment
    (counts : Counts)
    (key other : String) :
    count (increment counts key) other =
      if other = key then count counts key + 1 else count counts other := by
  simp only [count, increment, Directory.find?_set]
  split <;> rfl

end Counts

/-- The reports that were received, counted in two ways. -/
structure Statistics where
  servers : Counts
  addresses : Counts

namespace Statistics

/-- The statistics of a collector that has just started. -/
def empty : Statistics :=
  ⟨.empty, .empty⟩

/-- Count a report. -/
def record
    (statistics : Statistics)
    (report : Report) :
    Statistics :=
  ⟨statistics.servers.increment report.server,
    statistics.addresses.increment report.address⟩

end Statistics

end Postroom.Monitoring
