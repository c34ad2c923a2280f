import Mathlib.Algebra.BigOperators.Group.List.Lemmas
import Mathlib.Algebra.Ring.Nat
import Postroom.Proofs.Monitoring.Tallies
import Postroom.Proofs.Text.Utf8

namespace Postroom.Monitoring

/-!
# What a collector answers and shows

A collector answers each datagram by itself, and what it shows of all of them
are two listings. Each listing names the values of one field of the reports, in
the order of their bytes and with the number of datagrams that carried them.
The main statement ties both listings to the answers: whatever the datagrams
are, each success is counted once in each listing, and in whatever order they
come, the listings are the same.
-/

/-- The answers to some datagrams, in order. -/
def answers
    (statistics : Statistics) :
    List (List UInt8) →
    List String
  | [] =>
      []
  | datagram :: rest =>
      (collect statistics datagram).1 ::
        answers (collect statistics datagram).2 rest

/-- How many datagrams carry a report with a value in a field. -/
def carriers
    (field : Report → String)
    (datagrams : List (List UInt8))
    (value : String) :
    Nat :=
  datagrams.countP fun datagram =>
    (readDatagram? datagram).map field == some value

/--
A listing of the datagrams that a new collector was sent, by one field of their
reports.
-/
structure Shows
    (field : Report → String)
    (datagrams : List (List UInt8))
    (listing : List (String × Nat)) : Prop where
  /-- A listed value has as many carriers as its row says, and others have none. -/
  rows :
    ∀ value number,
      (value, number) ∈ listing ↔
        number = carriers field datagrams value ∧ number ≠ 0
  /-- The rows follow the bytes of their values, and no value has two rows. -/
  ascends :
    listing.Pairwise fun first second =>
      Text.encode first.1 < Text.encode second.1
  /-- The numbers add up to the datagrams that were answered with success. -/
  total :
    (listing.map Prod.snd).sum =
      (answers .empty datagrams).count success

namespace Counts

/-- The rows of a listing follow the bytes of their keys. -/
theorem pairwise_listing (counts : Counts) :
    (listing counts).Pairwise fun first second =>
      Text.encode first.1 < Text.encode second.1 := by
  rw [listing, List.pairwise_map]
  exact (pairwise_ascending _).imp Text.encode_lt_encode_iff.2

namespace Tallies

variable
  {counts : Counts}
  {keys : List String}
  (tallies : Tallies counts keys)

include tallies

/-- The rows of a listing are the keys that occur, with their numbers. -/
theorem mem_listing_iff
    {key : String}
    {number : Nat} :
    (key, number) ∈ listing counts ↔
      number = keys.count key ∧ number ≠ 0 := by
  simp only [listing, List.mem_map, mem_ascending, Prod.mk.injEq]
  constructor
  · rintro ⟨_, named, rfl, rfl⟩
    rw [(tallies _).1]
    have member := (tallies _).2.1 named
    exact ⟨rfl, Nat.ne_of_gt (List.count_pos_iff.2 member)⟩
  · rintro ⟨rfl, counted⟩
    have member := List.count_pos_iff.1 (Nat.pos_of_ne_zero counted)
    exact ⟨key, (tallies key).2.2 member, rfl, (tallies key).1⟩

/-- Each key is counted in one row. -/
theorem sum_listing :
    ((listing counts).map Prod.snd).sum = keys.length := by
  have named : (ascending counts.names).Perm keys.dedup :=
    (List.perm_ext_iff_of_nodup (nodup_ascending _)
      (List.nodup_dedup _)).2 fun key => by
        rw [mem_ascending, List.mem_dedup, (tallies key).2]
  have numbers : (listing counts).map Prod.snd =
      (ascending counts.names).map fun key => keys.count key := by
    rw [listing, List.map_map]
    exact List.map_congr_left fun key _ => (tallies key).1
  rw [numbers, (named.map _).sum_eq]
  exact List.sum_map_count_dedup_eq_length keys

end Tallies

end Counts

/-- The answer to a datagram does not depend on what was counted before. -/
theorem fst_collect
    (statistics : Statistics)
    (datagram : List UInt8) :
    (collect statistics datagram).1 =
      if (readDatagram? datagram).isSome then success else formatError := by
  rw [collect]
  cases readDatagram? datagram <;> rfl

theorem answers_eq_map
    (statistics : Statistics)
    (datagrams : List (List UInt8)) :
    answers statistics datagrams =
      datagrams.map fun datagram =>
        if (readDatagram? datagram).isSome then success else formatError := by
  induction datagrams generalizing statistics with
  | nil =>
      rfl
  | cons datagram rest inductionHypothesis =>
      rw [answers, inductionHypothesis, fst_collect, List.map_cons]

/-- As many datagrams are answered with success as reports are read. -/
theorem count_success_answers
    (statistics : Statistics)
    (datagrams : List (List UInt8)) :
    (answers statistics datagrams).count success =
      (datagrams.filterMap readDatagram?).length := by
  have told (datagram : List UInt8) :
      ((if (readDatagram? datagram).isSome then success else formatError) ==
          success) =
        (readDatagram? datagram).isSome := by
    have differs : (formatError == success) = false := by
      decide
    cases readDatagram? datagram
    · exact differs
    · exact beq_self_eq_true success
  rw [answers_eq_map, List.count_eq_countP, List.countP_map,
    List.length_filterMap_eq_countP]
  exact List.countP_congr fun datagram _ => by
    rw [Function.comp_apply, told]

/-- The values of a field in the reports that are read. -/
def values
    (field : Report → String)
    (datagrams : List (List UInt8)) :
    List String :=
  (datagrams.filterMap readDatagram?).map field

theorem count_values
    (field : Report → String)
    (datagrams : List (List UInt8))
    (value : String) :
    (values field datagrams).count value =
      carriers field datagrams value := by
  rw [values, List.map_filterMap, List.count_filterMap]
  rfl

namespace Shows

variable {field : Report → String}

/-- Counts that tally a field of all reports are shown in a listing of them. -/
theorem of_tallies
    {counts : Counts}
    {datagrams : List (List UInt8)}
    (tallies : counts.Tallies (values field datagrams)) :
    Shows field datagrams counts.listing where
  rows value number := by
    rw [← count_values]
    exact tallies.mem_listing_iff
  ascends :=
    counts.pairwise_listing
  total := by
    rw [tallies.sum_listing, count_success_answers, values, List.length_map]

/-- The datagrams may come in any order: there is one listing of them. -/
theorem eq_of_perm
    {datagrams others : List (List UInt8)}
    {listing other : List (String × Nat)}
    (shows : Shows field datagrams listing)
    (showsToo : Shows field others other)
    (permuted : datagrams.Perm others) :
    listing = other := by
  have nodup
      {rows : List (String × Nat)}
      (ascends :
        rows.Pairwise fun first second =>
          Text.encode first.1 < Text.encode second.1) :
      rows.Nodup := by
    refine ascends.imp ?_
    rintro first second before rfl
    exact String.lt_irrefl _ (Text.encode_lt_encode_iff.1 before)
  have same : listing.Perm other := by
    rw [List.perm_ext_iff_of_nodup (nodup shows.ascends)
      (nodup showsToo.ascends)]
    rintro ⟨value, number⟩
    rw [shows.rows, showsToo.rows, carriers, permuted.countP_eq]
    rfl
  refine same.eq_of_pairwise ?_ shows.ascends showsToo.ascends
  intro first second _ _ before behind
  rw [Text.encode_lt_encode_iff] at before behind
  exact absurd behind (String.lt_asymm before)

end Shows

/--
Whatever bytes a new collector is sent, each datagram is answered by success if
its first bytes, as far as the collector reads them, carry a report, and by the
format error if not. Behind any number of datagrams, the listings by server and
by address show each report that was read, once each, so that both add up to
the successes; and they would be the same had the datagrams come in any other
order.
-/
theorem counts_every_report_once (datagrams : List (List UInt8)) :
    answers .empty datagrams =
        datagrams.map (fun datagram =>
          if (Report.ofPayload?
              (Text.decode (datagram.take 1024))).isSome then
            "success"
          else
            "error provided message does not fit the expected format: " ++
              "<host>:<port> <email-address>") ∧
      Shows Report.server datagrams
        (collectAll .empty datagrams).servers.listing ∧
      Shows Report.address datagrams
        (collectAll .empty datagrams).addresses.listing ∧
      ∀ others, datagrams.Perm others →
        (collectAll .empty others).servers.listing =
            (collectAll .empty datagrams).servers.listing ∧
          (collectAll .empty others).addresses.listing =
            (collectAll .empty datagrams).addresses.listing := by
  have shown (datagrams : List (List UInt8)) :
      Shows Report.server datagrams
          (collectAll .empty datagrams).servers.listing ∧
        Shows Report.address datagrams
          (collectAll .empty datagrams).addresses.listing := by
    have tallies := Statistics.tallies_empty.collectAll datagrams
    rw [List.nil_append] at tallies
    exact ⟨.of_tallies tallies.servers, .of_tallies tallies.addresses⟩
  obtain ⟨servers, addresses⟩ := shown datagrams
  refine
    ⟨answers_eq_map .empty datagrams, servers, addresses,
      fun others permuted => ?_⟩
  obtain ⟨serversToo, addressesToo⟩ := shown others
  exact
    ⟨(servers.eq_of_perm serversToo permuted).symm,
      (addresses.eq_of_perm addressesToo permuted).symm⟩

/-- Two servers report, one of them twice, and something is no text at all. -/
def mixedDatagrams : List (List UInt8) := [
  Text.encode "b:2 y@z",
  [0xFF, 0x00],
  Text.encode "a:1 x@z\r\n",
  Text.encode "b:2 x@z"]

theorem counts_every_report_once_of_mixed :
    let others := mixedDatagrams.reverse
    mixedDatagrams.Perm others ∧
      (answers .empty mixedDatagrams).count success = 3 ∧
      (collectAll .empty mixedDatagrams).servers.listing =
        [("a:1", 1), ("b:2", 2)] ∧
      (collectAll .empty others).servers.listing =
        [("a:1", 1), ("b:2", 2)] := by
  intro others
  have permuted : mixedDatagrams.Perm others :=
    mixedDatagrams.reverse_perm.symm
  have listed :
      (collectAll .empty mixedDatagrams).servers.listing =
        [("a:1", 1), ("b:2", 2)] := by
    decide +kernel
  obtain ⟨_, _, _, alike⟩ := counts_every_report_once mixedDatagrams
  exact
    ⟨permuted, by decide +kernel, listed,
      (alike others permuted).1.trans listed⟩

end Postroom.Monitoring
