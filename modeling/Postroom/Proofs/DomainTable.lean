import Mathlib.Data.List.Nodup
import Postroom.Address
import Postroom.DomainTable

namespace Postroom

/-!
# Lookups in domain tables

A lookup prefers an exact name and otherwise takes any name that differs in
letter case only. When no two names of a table differ in letter case only, both
ways lead to the one authority that serves the domain.
-/

/-- Of values whose names differ in more than letter case, one has the name. -/
theorem Text.eq_of_sameLetters
    {values : List α}
    {name : α → String}
    (distinct :
      values.Pairwise fun first second =>
        sameLetters (name first) (name second) = false)
    {first second : α}
    (isFirst : first ∈ values)
    (isSecond : second ∈ values)
    (same : sameLetters (name first) (name second) = true) :
    first = second := by
  have apart : (values.map (asciiLower ∘ name)).Nodup := by
    rw [List.Nodup, List.pairwise_map]
    exact distinct.imp fun differ => by simpa [sameLetters] using differ
  refine List.inj_on_of_nodup_map apart isFirst isSecond ?_
  simpa [sameLetters] using same

namespace DomainTable

/-- The authority stands in the table under a spelling of the domain. -/
def Serves
    (table : DomainTable)
    (domain : String)
    (authority : Authority) : Prop :=
  ∃ name, (name, authority) ∈ table.entries ∧
    Text.sameLetters name domain = true

/-- The authority serves the domain of some recipient. -/
def Reaches
    (table : DomainTable)
    (recipients : List Address)
    (authority : Authority) : Prop :=
  ∃ recipient ∈ recipients, table.Serves recipient.domain authority

/-- No two names of the table differ in letter case only. -/
def Distinct (table : DomainTable) : Prop :=
  table.entries.Pairwise fun first second =>
    Text.sameLetters first.1 second.1 = false

instance (table : DomainTable) : Decidable table.Distinct :=
  inferInstanceAs (Decidable (table.entries.Pairwise _))

/-- Whatever a lookup finds serves the domain. -/
theorem serves_of_resolve?
    {table : DomainTable}
    {domain : String}
    {authority : Authority}
    (resolved : resolve? table domain = some authority) :
    table.Serves domain authority := by
  rcases Option.or_eq_some_iff.1 resolved with exact | ⟨_, spelled⟩
  · obtain ⟨entry, found, rfl⟩ := Option.map_eq_some_iff.1 exact
    have same : entry.1 = domain := by
      simpa using List.find?_some found
    exact ⟨entry.1, List.mem_of_find?_eq_some found, by simp [same]⟩
  · obtain ⟨entry, found, rfl⟩ := Option.map_eq_some_iff.1 spelled
    refine ⟨entry.1, List.mem_of_find?_eq_some found, ?_⟩
    have same : Text.sameLetters domain entry.1 = true := by
      simpa using List.find?_some found
    exact (Text.sameLetters_comm _ _).trans same

/-- A lookup fails exactly when no authority serves the domain. -/
theorem resolve?_eq_none_iff
    {table : DomainTable}
    {domain : String} :
    resolve? table domain = none ↔
      ∀ authority, ¬ table.Serves domain authority := by
  constructor
  · rintro unresolved authority ⟨name, entered, same⟩
    obtain ⟨_, notSpelled⟩ := Option.or_eq_none_iff.1 unresolved
    have differs :=
      List.find?_eq_none.1 (Option.map_eq_none_iff.1 notSpelled) _ entered
    exact differs (by rw [Text.sameLetters_comm]; exact same)
  · intro unserved
    cases resolved : resolve? table domain with
    | none =>
        rfl
    | some authority =>
        exact absurd (serves_of_resolve? resolved) (unserved authority)

namespace Distinct

variable {table : DomainTable} {domain : String}

/-- One spelling of a domain has one authority. -/
theorem serves_unique
    (distinct : table.Distinct)
    {first second : Authority}
    (servesFirst : table.Serves domain first)
    (servesSecond : table.Serves domain second) :
    first = second := by
  rcases servesFirst with ⟨firstName, firstEntered, firstSame⟩
  rcases servesSecond with ⟨secondName, secondEntered, secondSame⟩
  have spelledAlike : Text.sameLetters firstName secondName = true :=
    Text.sameLetters_trans firstSame
      (by rw [Text.sameLetters_comm]; exact secondSame)
  have sameEntry :=
    Text.eq_of_sameLetters distinct firstEntered secondEntered spelledAlike
  exact congrArg Prod.snd sameEntry

/-- A lookup finds exactly the authority that serves the domain. -/
theorem resolve?_eq_some_iff
    (distinct : table.Distinct)
    {authority : Authority} :
    resolve? table domain = some authority ↔
      table.Serves domain authority := by
  constructor
  · exact serves_of_resolve?
  · intro serves
    cases resolved : resolve? table domain with
    | none =>
        exact absurd serves (resolve?_eq_none_iff.1 resolved authority)
    | some found =>
        exact congrArg some
          (distinct.serves_unique (serves_of_resolve? resolved) serves)

end Distinct

end DomainTable

end Postroom
