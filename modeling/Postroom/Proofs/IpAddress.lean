import Postroom.IpAddress
import Postroom.Proofs.Text.Visible

namespace Postroom

/-!
# Written internet addresses

The text of an address is visible and short. A dotted address has no colon, so
with its port it has exactly one; the text of a version 6 address has at least
two colons by itself, whichever of its groups are left out.
-/

open Text (IsVisible)

/-- A text with at least two colons. -/
def HasTwoColons (text : String) : Prop :=
  ∃ before between behind,
    text = before ++ ":" ++ between ++ ":" ++ behind

namespace HasTwoColons

variable {text : String} (colons : HasTwoColons text)

include colons

theorem append (behind : String) : HasTwoColons (text ++ behind) := by
  obtain ⟨first, second, third, rfl⟩ := colons
  exact ⟨first, second, third ++ behind, by simp only [String.append_assoc]⟩

theorem prepend (before : String) : HasTwoColons (before ++ text) := by
  obtain ⟨first, second, third, rfl⟩ := colons
  exact ⟨before ++ first, second, third, by simp only [String.append_assoc]⟩

end HasTwoColons

namespace Ipv4

theorem isVisible_text (address : Ipv4) : IsVisible address.text := by
  apply Text.isVisible_intercalate (by decide)
  intro text member
  obtain ⟨octet, _, rfl⟩ := List.mem_map.1 member
  exact Text.isVisible_writeDecimal _

theorem colon_not_mem_text (address : Ipv4) :
    ':' ∉ address.text.toList := by
  have between : ∀ character ∈ ".".toList, character ≠ ':' := by
    rintro character member rfl
    exact absurd member (by decide)
  have octets :
      ∀ text ∈ [address.first, address.second, address.third,
            address.fourth].map fun octet => Text.writeDecimal octet.toNat,
        ∀ character ∈ text.toList, character ≠ ':' := by
    rw [List.forall_mem_map]
    rintro octet _ character member rfl
    exact Text.colon_not_mem_writeDecimal _ member
  intro member
  exact Wire.forall_mem_intercalate between octets _ member rfl

theorem text_ne_empty (address : Ipv4) : address.text ≠ "" := by
  rw [text, List.map_cons, String.intercalate_cons_of_ne_nil (by simp)]
  simp [Text.writeDecimal_ne_empty]

end Ipv4

namespace Ipv6

theorem isVisible_groupsText (groups : List UInt16) :
    IsVisible (groupsText groups) := by
  apply Text.isVisible_intercalate (by decide)
  intro text member
  obtain ⟨group, _, rfl⟩ := List.mem_map.1 member
  exact Text.isVisible_toDigits (by decide) _

theorem isVisible_text (address : Ipv6) : IsVisible (text address) := by
  simp only [text]
  split
  · exact
      Text.isVisible_append.2 ⟨by decide, Ipv4.isVisible_text _⟩
  · split
    · simp only [Text.isVisible_append]
      exact
        ⟨⟨isVisible_groupsText _, by decide⟩, isVisible_groupsText _⟩
    · exact isVisible_groupsText _

/-- Three groups are separated by two colons. -/
theorem hasTwoColons_groupsText
    {groups : List UInt16}
    (several : 2 < groups.length) :
    HasTwoColons (groupsText groups) := by
  match groups, several with
  | first :: second :: third :: rest, _ =>
      refine
        ⟨groupText first, groupText second, groupsText (third :: rest), ?_⟩
      simp only [groupsText, List.map_cons]
      rw [String.intercalate_cons_of_ne_nil (by simp),
        String.intercalate_cons_of_ne_nil (by simp)]
      simp only [String.append_assoc]

/-- The text of a version 6 address has two colons at least. -/
theorem hasTwoColons_text (address : Ipv6) :
    HasTwoColons (text address) := by
  simp only [text]
  split
  · exact HasTwoColons.append ⟨"", "", "ffff:", by decide⟩ _
  · split
    · exact
        (HasTwoColons.prepend ⟨"", "", "", by decide⟩ _).append _
    · apply hasTwoColons_groupsText
      rw [Vector.length_toList]
      decide

end Ipv6

namespace IpAddress

theorem isVisible_text (address : IpAddress) :
    IsVisible address.text := by
  cases address with
  | v4 octets =>
      exact octets.isVisible_text
  | v6 groups =>
      exact Ipv6.isVisible_text groups

/-- No address breaks a line. -/
theorem isOneLine_text (address : IpAddress) :
    Wire.IsOneLine address.text :=
  address.isVisible_text.isOneLine

section Lengths

/-- The dotted text of an address has four numerals of at most three digits. -/
theorem length_ipv4_le (address : Ipv4) :
    address.text.toList.length ≤ 16 := by
  have octet (value : UInt8) :
      (Text.writeDecimal value.toNat).toList.length ≤ 3 := by
    have digits :
        (Text.writeDecimal value.toNat).toList =
          Nat.toDigits 10 value.toNat := by
      simp [Text.writeDecimal]
    rw [digits, Nat.length_toDigits_le_iff (by decide) (by decide)]
    exact Nat.lt_trans value.toNat_lt (by decide)
  have joined :=
    @Wire.length_intercalate_le "." 3
      ([address.first, address.second, address.third, address.fourth].map
        fun octet => Text.writeDecimal octet.toNat)
      (by simp [octet])
  simpa [Ipv4.text] using joined

/-- Every group of an address has at most four digits. -/
theorem length_groupsText_le (groups : List UInt16) :
    (Ipv6.groupsText groups).toList.length ≤ groups.length * 5 := by
  have group (value : UInt16) :
      (Ipv6.groupText value).toList.length ≤ 4 := by
    rw [Ipv6.groupText, String.toList_ofList,
      Nat.length_toDigits_le_iff (by decide) (by decide)]
    exact value.toNat_lt
  have joined :=
    @Wire.length_intercalate_le ":" 4 (groups.map Ipv6.groupText)
      (by simp [group])
  simpa [Ipv6.groupsText] using joined

/-- No address has a long text. -/
theorem length_text_le (address : IpAddress) :
    address.text.toList.length ≤ 82 := by
  cases address with
  | v4 octets =>
      exact Nat.le_trans (length_ipv4_le octets) (by decide)
  | v6 groups =>
      simp only [text, Ipv6.text]
      have size : groups.toList.length = 8 :=
        Vector.length_toList
      split
      · rename_i high low _
        have embedded := length_ipv4_le (Ipv4.ofGroups high low)
        have mark : "::ffff:".toList.length = 7 := by
          decide
        rw [String.toList_append, List.length_append, mark]
        omega
      · split
        · have part
              {groups' : List UInt16}
              (sublist : groups'.Sublist groups.toList) :
              (Ipv6.groupsText groups').toList.length ≤ 40 := by
            have few := sublist.length_le
            have joined := length_groupsText_le groups'
            omega
          have front :=
            part (List.take_sublist (Ipv6.longestZeros groups.toList) _)
          have behind :=
            part
              (List.drop_sublist
                (Ipv6.longestZeros groups.toList +
                  Ipv6.zerosAt groups.toList
                    (Ipv6.longestZeros groups.toList))
                _)
          have mark : "::".toList.length = 2 := by
            decide
          simp only [String.toList_append, List.length_append, mark]
          omega
        · have whole := length_groupsText_le groups.toList
          rw [size] at whole
          exact Nat.le_trans whole (by decide)

end Lengths

end IpAddress

namespace SocketAddress

theorem isVisible_text (address : SocketAddress) :
    IsVisible address.text := by
  simp only [text]
  split
  · simp only [Text.isVisible_append]
    exact
      ⟨⟨Ipv4.isVisible_text _, by decide⟩, Text.isVisible_writeDecimal _⟩
  · simp only [Text.isVisible_append]
    exact
      ⟨⟨⟨by decide, Ipv6.isVisible_text _⟩, by decide⟩,
        Text.isVisible_writeDecimal _⟩

/-- Four octets, a colon and a port. -/
theorem length_text_v4_le
    (octets : Ipv4)
    (port : UInt16) :
    (text ⟨.v4 octets, port⟩).toList.length ≤ 22 := by
  have host := IpAddress.length_ipv4_le octets
  have digits :
      (Text.writeDecimal port.toNat).toList.length ≤ 5 := by
    rw [Text.toList_writeDecimal,
      Nat.length_toDigits_le_iff (by decide) (by decide)]
    exact Nat.lt_trans port.toNat_lt (by decide)
  have colon : ":".toList.length = 1 := by
    decide
  simp only [text, String.toList_append, List.length_append, colon]
  omega

end SocketAddress

end Postroom
