import Postroom.Authority
import Postroom.Directory
import Postroom.Text.Letters

namespace Postroom

/-!
# Domain tables

A domain table says which authority serves a domain. A name that is entered
exactly as asked wins over one that differs in the case of ASCII letters.
-/

/-- The authority of each known domain. -/
abbrev DomainTable :=
  Directory Authority

namespace DomainTable

/-- The authority that serves a domain. -/
def resolve?
    (table : DomainTable)
    (domain : String) :
    Option Authority :=
  (table.find? domain).or
    ((table.entries.find? (Text.sameLetters domain ·.1)).map Prod.snd)

/-- An exact name decides. -/
theorem resolve?_of_find?
    {table : DomainTable}
    {domain : String}
    {authority : Authority}
    (found : table.find? domain = some authority) :
    resolve? table domain = some authority := by
  simp [resolve?, found]

end DomainTable

end Postroom
