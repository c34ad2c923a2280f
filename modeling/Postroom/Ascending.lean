namespace Postroom

/-!
# Ascending lists without repetition

The users that receive a copy, the destinations of an email, its unknown
domains and the rows of a statistics listing are all walked in ascending
order, each once. The main statements say that the list made from any values
is strictly ascending and has exactly the given members.
-/

/-- An order given by a strict comparison that decides between any two values. -/
class StrictOrder (α : Type) extends LT α where
  decides : DecidableLT α
  irreflexive : ∀ value : α, ¬ value < value
  transitive : ∀ first second third : α,
    first < second → second < third → first < third
  compares : ∀ first second : α,
    first < second ∨ first = second ∨ second < first

instance StrictOrder.decidableLT [StrictOrder α] : DecidableLT α :=
  StrictOrder.decides

instance : StrictOrder String where
  lt :=
    (· < ·)
  decides :=
    inferInstance
  irreflexive value :=
    String.lt_irrefl value
  transitive _ _ _ first second :=
    String.lt_trans first second
  compares first second := by
    by_cases before : first < second
    · exact Or.inl before
    · by_cases behind : second < first
      · exact Or.inr (Or.inr behind)
      · exact Or.inr (Or.inl (String.le_antisymm behind before))

/-- Put a value at its place in an ascending list, unless it is there. -/
def insertAscending
    [StrictOrder α]
    (value : α) :
    List α →
    List α
  | [] =>
      [value]
  | first :: rest =>
      if value < first then
        value :: first :: rest
      else if first < value then
        first :: insertAscending value rest
      else
        first :: rest

/-- The given values in ascending order, each once. -/
def ascending
    [StrictOrder α]
    (values : List α) :
    List α :=
  values.foldr insertAscending []

@[simp] theorem ascending_nil [StrictOrder α] :
    ascending ([] : List α) = [] :=
  rfl

@[simp] theorem ascending_cons
    [StrictOrder α]
    (value : α)
    (values : List α) :
    ascending (value :: values) =
      insertAscending value (ascending values) :=
  rfl

@[simp] theorem mem_insertAscending
    [StrictOrder α]
    {value inserted : α}
    {values : List α} :
    value ∈ insertAscending inserted values ↔
      value = inserted ∨ value ∈ values := by
  induction values with
  | nil =>
      simp [insertAscending]
  | cons first rest inductionHypothesis =>
      simp only [insertAscending]
      split
      · simp
      · rename_i notBefore
        split
        · simp only [List.mem_cons, inductionHypothesis]
          grind
        · rename_i notBehind
          have same : inserted = first := by
            rcases StrictOrder.compares inserted first with
              before | equal | behind
            · exact absurd before notBefore
            · exact equal
            · exact absurd behind notBehind
          simp [same]

/-- The ascending list has exactly the given members. -/
@[simp] theorem mem_ascending
    [StrictOrder α]
    {value : α}
    {values : List α} :
    value ∈ ascending values ↔ value ∈ values := by
  induction values with
  | nil =>
      simp
  | cons first rest inductionHypothesis =>
      simp [inductionHypothesis]

/-- Insertion keeps a list strictly ascending. -/
theorem pairwise_insertAscending
    [StrictOrder α]
    {value : α}
    {values : List α}
    (sorted : values.Pairwise (· < ·)) :
    (insertAscending value values).Pairwise (· < ·) := by
  induction values with
  | nil =>
      simp [insertAscending]
  | cons first rest inductionHypothesis =>
      obtain ⟨leads, sortedRest⟩ := List.pairwise_cons.1 sorted
      simp only [insertAscending]
      split
      · rename_i before
        refine List.pairwise_cons.2 ⟨?_, sorted⟩
        intro member inList
        rcases List.mem_cons.1 inList with rfl | inRest
        · exact before
        · exact StrictOrder.transitive _ _ _ before (leads member inRest)
      · split
        · rename_i behind
          refine List.pairwise_cons.2
            ⟨?_, inductionHypothesis sortedRest⟩
          intro member inList
          rcases mem_insertAscending.1 inList with rfl | inRest
          · exact behind
          · exact leads member inRest
        · exact sorted

/-- The ascending list of any values is strictly ascending. -/
theorem pairwise_ascending
    [StrictOrder α]
    (values : List α) :
    (ascending values).Pairwise (· < ·) := by
  induction values with
  | nil =>
      simp
  | cons first rest inductionHypothesis =>
      exact pairwise_insertAscending inductionHypothesis

/-- No value occurs twice in the ascending list. -/
theorem nodup_ascending
    [StrictOrder α]
    (values : List α) :
    (ascending values).Nodup := by
  refine (pairwise_ascending values).imp ?_
  intro first second before same
  exact StrictOrder.irreflexive second (same ▸ before)

end Postroom
