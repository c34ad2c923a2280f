import Postroom.Proofs.Text.Numerals
import Postroom.StartupError

namespace Postroom

/-!
# Written authorities

An authority is written as its host, a colon and the number of its port. The
number holds no colon, so the last colon of the text divides them, however many
the host has. The main statement says that a written authority is read back and
which other texts are read: those that spell the port with a plus sign or with
zeros in front.
-/

namespace Authority

/-- A text spells a host and a port: both stand around its last colon. -/
structure Spells
    (text host : String)
    (port : Nat) : Prop where
  named : host ≠ ""
  divided :
    ∃ numeral,
      text = host ++ ":" ++ numeral ∧
        ':' ∉ numeral.toList ∧
        Text.IsNumeral numeral port

/-- A host and a numeral of a port are spelled by what they make up. -/
theorem Spells.of_isNumeral
    {host numeral : String}
    {port : Nat}
    (named : host ≠ "")
    (isNumeral : Text.IsNumeral numeral port) :
    Spells (host ++ ":" ++ numeral) host port :=
  ⟨named, numeral, rfl, isNumeral.colon_not_mem, isNumeral⟩

/-- The written form of an authority is cut between its host and its port. -/
theorem cutLast?_text (authority : Authority) :
    Text.cutLast? ':' authority.text =
      some (authority.host, Text.writeDecimal authority.port.toNat) :=
  Text.cutLast?_eq_some_iff.2
    ⟨rfl, (Text.isNumeral_writeDecimal _).colon_not_mem⟩

/-- No two authorities are written alike. -/
theorem text_injective
    {first second : Authority}
    (same : first.text = second.text) :
    first = second := by
  have cuts :
      some (first.host, Text.writeDecimal first.port.toNat) =
        some (second.host, Text.writeDecimal second.port.toNat) := by
    rw [← cutLast?_text first, ← cutLast?_text second, same]
  obtain ⟨hosts, numerals⟩ := Prod.mk.inj (Option.some.inj cuts)
  have ports : some first.port.toNat = some second.port.toNat := by
    rw [← Text.readDecimal?_writeDecimal first.port.toNat, numerals,
      Text.readDecimal?_writeDecimal]
  cases first
  cases second
  simp_all [UInt16.toNat_inj]

/-- A text denotes the authority whose host and port it spells. -/
theorem ofText?_eq_some_iff
    {text : String}
    {authority : Authority} :
    ofText? text = some authority ↔
      Spells text authority.host authority.port.toNat := by
  constructor
  · intro read
    unfold ofText? at read
    split at read
    · cases read
    · rename_i host numeral cut
      obtain ⟨rfl, last⟩ := Text.cutLast?_eq_some_iff.1 cut
      split at read
      · cases read
      · rename_i named
        obtain ⟨port, isPort, rfl⟩ := Option.map_eq_some_iff.1 read
        obtain ⟨isNumeral, below⟩ := Text.readBelow?_eq_some_iff.1 isPort
        refine ⟨named, numeral, rfl, last, ?_⟩
        rwa [UInt16.toNat_ofNat_of_lt' below]
  · rintro ⟨named, numeral, rfl, last, isNumeral⟩
    have cut :
        Text.cutLast? ':' (authority.host ++ ":" ++ numeral) =
          some (authority.host, numeral) :=
      Text.cutLast?_eq_some_iff.2 ⟨rfl, last⟩
    have isPort :
        Text.readBelow? UInt16.size numeral = some authority.port.toNat :=
      Text.readBelow?_eq_some_iff.2 ⟨isNumeral, authority.port.toNat_lt⟩
    simp [ofText?, cut, named, isPort]

/-- A text denotes some authority when it spells a port in range. -/
theorem exists_ofText?_iff {text : String} :
    (∃ authority, ofText? text = some authority) ↔
      ∃ host port, Spells text host port ∧ port ≤ 65535 := by
  constructor
  · rintro ⟨authority, read⟩
    exact
      ⟨_, _, ofText?_eq_some_iff.1 read,
        Nat.le_of_lt_succ authority.port.toNat_lt⟩
  · rintro ⟨host, port, spells, inRange⟩
    have below : port < UInt16.size :=
      Nat.lt_succ_of_le inRange
    refine ⟨⟨host, UInt16.ofNat port⟩, ofText?_eq_some_iff.2 ?_⟩
    rwa [UInt16.toNat_ofNat_of_lt' below]

/-- A text denotes nothing when it spells no port in range. -/
theorem ofText?_eq_none_iff {text : String} :
    ofText? text = none ↔
      ¬ ∃ host port, Spells text host port ∧ port ≤ 65535 := by
  rw [← exists_ofText?_iff, Option.eq_none_iff_forall_ne_some, not_exists]

/-- An authority is spelled by its host and its number behind zeros and a sign. -/
theorem spells_iff
    {text host : String}
    {port : Nat} :
    Spells text host port ↔
      host ≠ "" ∧
        ∃ sign zeros : String,
          (sign = "" ∨ sign = "+") ∧
            (∀ zero ∈ zeros.toList, zero = '0') ∧
            text =
              host ++ ":" ++ (sign ++ zeros ++ Text.writeDecimal port) := by
  constructor
  · rintro ⟨named, numeral, rfl, _, isNumeral⟩
    obtain ⟨sign, zeros, isSign, onlyZeros, rfl⟩ :=
      Text.isNumeral_iff.1 isNumeral
    exact ⟨named, sign, zeros, isSign, onlyZeros, rfl⟩
  · rintro ⟨named, sign, zeros, isSign, onlyZeros, rfl⟩
    exact
      Spells.of_isNumeral named
        (Text.isNumeral_iff.2 ⟨sign, zeros, isSign, onlyZeros, rfl⟩)

end Authority

/--
An authority with a host is read back from its written form, and no two
authorities are written alike. A text is read exactly when a last colon divides
it into a host and a numeral of at most 65535; it denotes the host and the port
that it spells, and the error quotes every other text as a whole. So the texts
of an authority are its written form with any zeros and one plus sign or none in
front of the port.
-/
theorem authorities_are_read_as_written :
    (∀ host port,
        host ≠ "" →
        Authority.ofText (Authority.text ⟨host, port⟩) =
          .ok ⟨host, port⟩) ∧
      (∀ first second : Authority,
        first.text = second.text → first = second) ∧
      (∀ text,
        (∃ authority, Authority.ofText text = .ok authority) ↔
          ∃ host port, Authority.Spells text host port ∧ port ≤ 65535) ∧
      (∀ text authority,
        Authority.ofText text = .ok authority ↔
          Authority.Spells text authority.host authority.port.toNat) ∧
      (∀ text error,
        Authority.ofText text = .error error ↔
          error = .invalidAuthority text ∧
            ¬ ∃ host port,
              Authority.Spells text host port ∧ port ≤ 65535) ∧
      ∀ text authority,
        Authority.ofText text = .ok authority ↔
          authority.host ≠ "" ∧
            ∃ sign zeros : String,
              (sign = "" ∨ sign = "+") ∧
                (∀ zero ∈ zeros.toList, zero = '0') ∧
                text =
                  authority.host ++ ":" ++
                    (sign ++ zeros ++
                      Text.writeDecimal authority.port.toNat) := by
  have reads (text : String) (authority : Authority) :
      Authority.ofText text = .ok authority ↔
        Authority.Spells text authority.host authority.port.toNat :=
    Authority.ofText_eq_ok_iff.trans Authority.ofText?_eq_some_iff
  refine ⟨?_, ?_, ?_, reads, ?_, ?_⟩
  · intro host port named
    exact
      (reads _ _).2
        (Authority.Spells.of_isNumeral named
          (Text.isNumeral_writeDecimal port.toNat))
  · exact fun _ _ => Authority.text_injective
  · intro text
    simp only [Authority.ofText_eq_ok_iff, Authority.exists_ofText?_iff]
  · intro text error
    rw [Authority.ofText_eq_error_iff, Authority.ofText?_eq_none_iff,
      and_comm]
  · intro text authority
    rw [reads, Authority.spells_iff]

/-- A host with colons at the last port, its longer spelling, and a port too far. -/
theorem authorities_are_read_as_written_with_colons :
    ("[::1]" ≠ "" ∧
        Authority.ofText "[::1]:65535" = .ok ⟨"[::1]", 65535⟩) ∧
      Authority.ofText "[::1]:+0065535" = .ok ⟨"[::1]", 65535⟩ ∧
      ¬ ∃ host port,
        Authority.Spells "[::1]:65536" host port ∧ port ≤ 65535 := by
  obtain ⟨readBack, _, _, _, refused, spellings⟩ :=
    authorities_are_read_as_written
  have named : "[::1]" ≠ "" := by
    decide
  have written :
      Authority.text ⟨"[::1]", 65535⟩ = "[::1]:65535" := by
    decide
  have tooFar :
      Authority.ofText "[::1]:65536" =
        .error (.invalidAuthority "[::1]:65536") :=
    Authority.ofText_eq_error_iff.2 ⟨by decide, rfl⟩
  refine ⟨⟨named, ?_⟩, ?_, ((refused _ _).1 tooFar).2⟩
  · rw [← written]
    exact readBack _ _ named
  · exact
      (spellings _ _).2
        ⟨named, "+", "00", Or.inr rfl, by simp, by decide⟩

end Postroom
