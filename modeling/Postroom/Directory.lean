namespace Postroom

/-!
# Directories

A directory keeps one value for each of finitely many names, in the order in
which the names were first entered. Domain tables, user tables, mailboxes and
statistics are directories. The main statements say what a lookup finds after
an entry was made, and that names never repeat.
-/

/-- Finitely many named values. -/
structure Directory (Value : Type) where
  /-- The names with their values, oldest name first. -/
  entries : List (String × Value)
  /-- No name is entered twice. -/
  distinct : (entries.map Prod.fst).Nodup

namespace Directory

/-- Replace the value of a name in place, or enter the name at the end. -/
def setEntry
    (name : String)
    (value : Value) :
    List (String × Value) →
    List (String × Value)
  | [] =>
      [(name, value)]
  | first :: rest =>
      if first.1 = name then
        (name, value) :: rest
      else
        first :: setEntry name value rest

theorem mem_names_setEntry
    {name other : String}
    {value : Value}
    {entries : List (String × Value)} :
    other ∈ (setEntry name value entries).map Prod.fst ↔
      other = name ∨ other ∈ entries.map Prod.fst := by
  induction entries with
  | nil =>
      simp [setEntry]
  | cons first rest inductionHypothesis =>
      simp only [setEntry]
      split
      · rename_i same
        simp [same]
      · simp only [List.map_cons, List.mem_cons, inductionHypothesis]
        grind

theorem nodup_names_setEntry
    {name : String}
    {value : Value}
    {entries : List (String × Value)}
    (distinct : (entries.map Prod.fst).Nodup) :
    ((setEntry name value entries).map Prod.fst).Nodup := by
  induction entries with
  | nil =>
      simp [setEntry]
  | cons first rest inductionHypothesis =>
      simp only [List.map_cons, List.nodup_cons] at distinct
      simp only [setEntry]
      split
      · rename_i same
        simpa [← same] using distinct
      · rename_i different
        simp only [List.map_cons, List.nodup_cons, mem_names_setEntry,
          not_or]
        exact ⟨⟨different, distinct.1⟩,
          inductionHypothesis distinct.2⟩

/-- The directory without names. -/
def empty : Directory Value where
  entries :=
    []
  distinct := by
    simp

instance : Inhabited (Directory Value) :=
  ⟨empty⟩

instance : EmptyCollection (Directory Value) :=
  ⟨empty⟩

/-- The value of a name. -/
def find?
    (directory : Directory Value)
    (name : String) :
    Option Value :=
  (directory.entries.find? (·.1 == name)).map Prod.snd

/-- Enter a value under a name, in place of any earlier one. -/
def set
    (directory : Directory Value)
    (name : String)
    (value : Value) :
    Directory Value where
  entries :=
    setEntry name value directory.entries
  distinct :=
    nodup_names_setEntry directory.distinct

/-- Enter pairs from left to right. -/
def ofList (pairs : List (String × Value)) : Directory Value :=
  pairs.foldl (fun directory pair => directory.set pair.1 pair.2) empty

/-- Whether a name has a value. -/
def contains
    (directory : Directory Value)
    (name : String) :
    Bool :=
  (directory.find? name).isSome

/-- The number of names. -/
def size (directory : Directory Value) : Nat :=
  directory.entries.length

/-- The names, oldest first. -/
def names (directory : Directory Value) : List String :=
  directory.entries.map Prod.fst

@[simp] theorem find?_empty (name : String) :
    (empty : Directory Value).find? name = none :=
  rfl

theorem find?_setEntry
    (name other : String)
    (value : Value)
    (entries : List (String × Value)) :
    ((setEntry name value entries).find? (·.1 == other)).map Prod.snd =
      if other = name then
        some value
      else
        (entries.find? (·.1 == other)).map Prod.snd := by
  induction entries with
  | nil =>
      by_cases same : name = other
      · simp [setEntry, same]
      · simp [setEntry, same, Ne.symm same]
  | cons first rest inductionHypothesis =>
      simp only [setEntry]
      split
      · rename_i found
        by_cases same : name = other
        · simp [same]
        · simp [same, Ne.symm same, found]
      · rename_i notFound
        by_cases front : first.1 = other
        · have differs : ¬ other = name :=
            fun equal => notFound (front.trans equal)
          simp [front, differs]
        · simpa [front] using inductionHypothesis

/-- A lookup finds the entry just made, and every other name as before. -/
@[simp] theorem find?_set
    (directory : Directory Value)
    (name other : String)
    (value : Value) :
    (directory.set name value).find? other =
      if other = name then some value else directory.find? other :=
  find?_setEntry name other value directory.entries

/-- A name has a value exactly when it was entered. -/
theorem contains_eq_true_iff
    {directory : Directory Value}
    {name : String} :
    directory.contains name = true ↔ name ∈ directory.names := by
  simp [contains, find?, names]

end Directory

end Postroom
