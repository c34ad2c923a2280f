import Postroom.Text.Decimal
import Postroom.Text.Split

namespace Postroom

/-!
# Internet addresses

Addresses of both versions with their canonical text. In a version 6 address
the first of the longest runs of at least two zero groups is left out, and an
address that stands for a version 4 address shows it.
-/

/-- The four octets of a version 4 address. -/
structure Ipv4 where
  first : UInt8
  second : UInt8
  third : UInt8
  fourth : UInt8
  deriving Repr, DecidableEq

/-- The eight groups of a version 6 address. -/
abbrev Ipv6 :=
  Vector UInt16 8

/-- An address of either version. -/
inductive IpAddress where
  | v4 (octets : Ipv4)
  | v6 (groups : Ipv6)
  deriving DecidableEq

namespace Ipv4

/-- The dotted text of an address. -/
def text (address : Ipv4) : String :=
  String.intercalate "."
    ([address.first, address.second, address.third, address.fourth].map
      fun octet => Text.writeDecimal octet.toNat)

/-- The octet that a text denotes: at most three digits, none of them in vain. -/
def readOctet? (text : String) : Option UInt8 :=
  let digits := text.toList
  if digits ≠ [] ∧ digits.length ≤ 3 ∧
      digits.all Char.isDigit = true ∧
      (digits.head? ≠ some '0' ∨ digits.length = 1) ∧
      Text.digitsValue digits < 256 then
    some (UInt8.ofNat (Text.digitsValue digits))
  else
    none

/-- The address that a dotted text denotes. -/
def ofText? (text : String) : Option Ipv4 :=
  match Text.pieces '.' text with
  | [first, second, third, fourth] => do
      return ⟨← readOctet? first, ← readOctet? second,
        ← readOctet? third, ← readOctet? fourth⟩
  | _ =>
      none

/-- The two groups that carry a version 4 address within one of version 6. -/
def groups (address : Ipv4) : List UInt16 :=
  [
    address.first.toUInt16 * 256 + address.second.toUInt16,
    address.third.toUInt16 * 256 + address.fourth.toUInt16
  ]

/-- The version 4 address that two groups carry. -/
def ofGroups (high low : UInt16) : Ipv4 :=
  ⟨(high / 256).toUInt8, (high % 256).toUInt8,
    (low / 256).toUInt8, (low % 256).toUInt8⟩

end Ipv4

namespace Ipv6

/-- The hexadecimal numeral of a group. -/
def groupText (group : UInt16) : String :=
  String.ofList (Nat.toDigits 16 group.toNat)

/-- Groups separated by colons. -/
def groupsText (groups : List UInt16) : String :=
  String.intercalate ":" (groups.map groupText)

/-- How many zero groups stand at a position in one run. -/
def zerosAt
    (groups : List UInt16)
    (position : Nat) :
    Nat :=
  ((groups.drop position).takeWhile (· == 0)).length

/-- The position of the first of the longest runs of zero groups. -/
def longestZeros (groups : List UInt16) : Nat :=
  (List.range groups.length).foldl
    (fun best position =>
      if zerosAt groups best < zerosAt groups position then
        position
      else
        best)
    0

/-- The canonical text of an address. -/
def text (address : Ipv6) : String :=
  match address.toList with
  | [0, 0, 0, 0, 0, 0xFFFF, high, low] =>
      "::ffff:" ++ (Ipv4.ofGroups high low).text
  | groups =>
      let start := longestZeros groups
      let count := zerosAt groups start
      if 1 < count then
        groupsText (groups.take start) ++ "::" ++
          groupsText (groups.drop (start + count))
      else
        groupsText groups

/-- The value of a hexadecimal digit. -/
def hexValue? (character : Char) : Option Nat :=
  if character.isDigit then
    some (character.toNat - '0'.toNat)
  else if 'a' ≤ character ∧ character ≤ 'f' then
    some (character.toNat - 'a'.toNat + 10)
  else if 'A' ≤ character ∧ character ≤ 'F' then
    some (character.toNat - 'A'.toNat + 10)
  else
    none

/-- The group that one to four hexadecimal digits denote. -/
def readGroup? (text : String) : Option UInt16 :=
  let digits := text.toList
  if digits = [] ∨ 4 < digits.length then
    none
  else
    (digits.mapM hexValue?).map
      fun values => UInt16.ofNat (values.foldl (16 * · + ·) 0)

/-- The groups of a row of pieces, the last of which may be a dotted address. -/
def readGroups? (allowDotted : Bool) : List String → Option (List UInt16)
  | [] =>
      some []
  | [last] =>
      match readGroup? last with
      | some group =>
          some [group]
      | none =>
          if allowDotted then
            (Ipv4.ofText? last).map Ipv4.groups
          else
            none
  | first :: rest => do
      return (← readGroup? first) :: (← readGroups? allowDotted rest)

/-- The pieces between the colons of a text, of which an empty one has none. -/
def colonPieces (text : String) : List String :=
  if text = "" then [] else Text.pieces ':' text

/-- The characters before the first two colons in a row and those behind. -/
def splitDoubleColon? : List Char → Option (List Char × List Char)
  | ':' :: ':' :: behind =>
      some ([], behind)
  | first :: rest =>
      (splitDoubleColon? rest).map
        fun (before, behind) => (first :: before, behind)
  | [] =>
      none

/-- Eight groups as an address. -/
def ofGroups? (groups : List UInt16) : Option Ipv6 :=
  if size : groups.length = 8 then
    some ⟨groups.toArray, by simpa using size⟩
  else
    none

/-- The address that a text denotes. -/
def ofText? (text : String) : Option Ipv6 :=
  match splitDoubleColon? text.toList with
  | none => do
      ofGroups? (← readGroups? true (colonPieces text))
  | some (before, behind) => do
      let head ← readGroups? false (colonPieces (String.ofList before))
      let tail ← readGroups? true (colonPieces (String.ofList behind))
      if head.length + tail.length ≤ 7 then
        ofGroups?
          (head ++
            List.replicate (8 - (head.length + tail.length)) 0 ++
            tail)
      else
        none

end Ipv6

namespace IpAddress

/-- The address of a host that talks to itself. -/
def loopback : IpAddress :=
  .v4 ⟨127, 0, 0, 1⟩

/-- The canonical text of an address. -/
def text : IpAddress → String
  | .v4 octets =>
      octets.text
  | .v6 groups =>
      Ipv6.text groups

/-- The address that a text denotes. -/
def ofText? (text : String) : Option IpAddress :=
  match Ipv4.ofText? text with
  | some octets =>
      some (.v4 octets)
  | none =>
      (Ipv6.ofText? text).map .v6

/-- Whether an address stands for every address of a host. -/
def isUnspecified : IpAddress → Bool
  | .v4 octets =>
      octets == ⟨0, 0, 0, 0⟩
  | .v6 groups =>
      groups.toList.all (· == 0)

end IpAddress

/-- One end of a connection. -/
structure SocketAddress where
  ip : IpAddress
  port : UInt16
  deriving DecidableEq

namespace SocketAddress

/-- The text of an end of a connection. -/
def text (address : SocketAddress) : String :=
  let port := Text.writeDecimal address.port.toNat
  match address.ip with
  | .v4 octets =>
      octets.text ++ ":" ++ port
  | .v6 groups =>
      "[" ++ Ipv6.text groups ++ "]:" ++ port

/-- The address within square brackets. -/
def readBracketed? (host : String) : Option Ipv6 :=
  match host.toList with
  | '[' :: rest =>
      if rest.getLast? = some ']' then
        Ipv6.ofText? (String.ofList rest.dropLast)
      else
        none
  | _ =>
      none

/-- The end of a connection that a text denotes. -/
def ofText? (text : String) : Option SocketAddress := do
  let (host, portText) ← Text.cutLast? ':' text
  let port ←
    if portText.toList.all Char.isDigit then
      Text.readBelow? UInt16.size portText
    else
      none
  match Ipv4.ofText? host with
  | some octets =>
      return ⟨.v4 octets, UInt16.ofNat port⟩
  | none =>
      return ⟨.v6 (← readBracketed? host), UInt16.ofNat port⟩

end SocketAddress

end Postroom
