import Postroom.Ascending
import Postroom.Text.Decimal
import Postroom.Text.Split

namespace Postroom

/-!
# Authorities

An authority names a server that can be reached: a host and a port. Hosts may
hold colons themselves, so the port stands behind the last one.
-/

/-- A host and a port. -/
structure Authority where
  host : String
  port : UInt16
  deriving Repr, DecidableEq

namespace Authority

/-- The authority that a text denotes. -/
def ofText? (text : String) : Option Authority :=
  match Text.cutLast? ':' text with
  | none =>
      none
  | some (host, port) =>
      if host = "" then
        none
      else
        (Text.readBelow? UInt16.size port).map
          fun number => ⟨host, UInt16.ofNat number⟩

/-- The written form of an authority. -/
def text (authority : Authority) : String :=
  authority.host ++ ":" ++ Text.writeDecimal authority.port.toNat

/-- Authorities are ordered by host, then by port. -/
def lessThan (left right : Authority) : Prop :=
  left.host < right.host ∨
    left.host = right.host ∧ left.port < right.port

instance : StrictOrder Authority where
  lt :=
    lessThan
  decides left right :=
    inferInstanceAs
      (Decidable
        (left.host < right.host ∨
          left.host = right.host ∧ left.port < right.port))
  irreflexive authority := by
    rintro (before | ⟨_, before⟩)
    · exact StrictOrder.irreflexive _ before
    · exact UInt16.lt_irrefl _ before
  transitive first second third := by
    rintro (left | ⟨leftHost, left⟩) (right | ⟨rightHost, right⟩)
    · exact Or.inl (StrictOrder.transitive _ _ _ left right)
    · exact Or.inl (rightHost ▸ left)
    · exact Or.inl (leftHost ▸ right)
    · exact Or.inr
        ⟨leftHost.trans rightHost, UInt16.lt_trans left right⟩
  compares first second := by
    rcases StrictOrder.compares first.host second.host with
      before | same | behind
    · exact Or.inl (Or.inl before)
    · rcases Nat.lt_trichotomy first.port.toNat second.port.toNat with
        less | equal | greater
      · exact Or.inl (Or.inr ⟨same, UInt16.lt_iff_toNat_lt.2 less⟩)
      · have ports : first.port = second.port :=
          UInt16.toNat_inj.1 equal
        exact Or.inr (Or.inl (by
          cases first
          cases second
          simp_all))
      · exact Or.inr (Or.inr
          (Or.inr ⟨same.symm, UInt16.lt_iff_toNat_lt.2 greater⟩))
    · exact Or.inr (Or.inr (Or.inl behind))

end Authority

end Postroom
