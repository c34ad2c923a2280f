namespace Postroom.Text

/-!
# Cutting a text at a separator

Three ways of cutting: once at the first separator, once at the last one, and
at every one. The separator belongs to no piece. The lemmas say that the
pieces, joined by the separator again, are the text that was cut.
-/

/-- The characters before the first separator and those behind it. -/
def splitFirst?
    (separator : Char)
    (characters : List Char) :
    Option (List Char × List Char) :=
  match characters.dropWhile (· != separator) with
  | [] =>
      none
  | _ :: behind =>
      some (characters.takeWhile (· != separator), behind)

/-- Cut a text at the first occurrence of a separator. -/
def cutFirst?
    (separator : Char)
    (text : String) :
    Option (String × String) :=
  (splitFirst? separator text.toList).map
    fun (before, behind) =>
      (String.ofList before, String.ofList behind)

/-- Cut a text at the last occurrence of a separator. -/
def cutLast?
    (separator : Char)
    (text : String) :
    Option (String × String) :=
  (splitFirst? separator text.toList.reverse).map
    fun (behind, before) =>
      (String.ofList before.reverse, String.ofList behind.reverse)

/-- Cut a text at every character that satisfies a test. -/
def piecesBy
    (isSeparator : Char → Bool)
    (text : String) :
    List String :=
  (text.toList.splitOnP isSeparator).map String.ofList

/-- Cut a text at every occurrence of a separator. -/
def pieces
    (separator : Char)
    (text : String) :
    List String :=
  piecesBy (· == separator) text

/-- A cut succeeds exactly at the first separator. -/
theorem splitFirst?_eq_some_iff
    {separator : Char}
    {characters before behind : List Char} :
    splitFirst? separator characters = some (before, behind) ↔
      characters = before ++ separator :: behind ∧
        separator ∉ before := by
  induction characters generalizing before with
  | nil =>
      simp [splitFirst?]
  | cons first rest inductionHypothesis =>
      by_cases same : first = separator
      · subst same
        cases before with
        | nil =>
            simp [splitFirst?]
        | cons head tail =>
            simp only [splitFirst?, bne_self_eq_false, Bool.false_eq_true,
              not_false_eq_true, List.dropWhile_cons_of_neg,
              List.takeWhile_cons_of_neg, Option.some.injEq, Prod.mk.injEq,
              List.cons_append, List.cons.injEq, List.mem_cons, not_or]
            grind
      · have step :
            splitFirst? separator (first :: rest) =
              (splitFirst? separator rest).map
                fun (before, behind) => (first :: before, behind) := by
          simp only [splitFirst?]
          rw [List.dropWhile_cons_of_pos (by simpa using same),
            List.takeWhile_cons_of_pos (by simpa using same)]
          cases List.dropWhile (· != separator) rest <;> rfl
        rw [step]
        cases before with
        | nil =>
            simp [same]
        | cons head tail =>
            simp only [Option.map_eq_some_iff, Prod.exists, Prod.mk.injEq,
              List.cons.injEq, List.cons_append, List.mem_cons, not_or]
            constructor
            · rintro ⟨left, right, found, ⟨rfl, rfl⟩, rfl⟩
              obtain ⟨shape, absent⟩ := inductionHypothesis.1 found
              exact ⟨⟨rfl, shape⟩, fun equal => same equal.symm, absent⟩
            · rintro ⟨⟨rfl, shape⟩, _, absent⟩
              exact ⟨tail, behind, inductionHypothesis.2 ⟨shape, absent⟩,
                ⟨rfl, rfl⟩, rfl⟩

/-- Without the separator there is nothing to cut. -/
theorem splitFirst?_eq_none_iff
    {separator : Char}
    {characters : List Char} :
    splitFirst? separator characters = none ↔
      separator ∉ characters := by
  induction characters with
  | nil =>
      simp [splitFirst?]
  | cons first rest inductionHypothesis =>
      by_cases same : first = separator
      · subst same
        simp [splitFirst?]
      · have drop :
            (first :: rest).dropWhile (· != separator) =
              rest.dropWhile (· != separator) :=
          List.dropWhile_cons_of_pos (by simpa using same)
        have absent : separator ≠ first :=
          fun equal => same equal.symm
        simp only [splitFirst?, drop] at inductionHypothesis ⊢
        cases dropped : List.dropWhile (· != separator) rest <;>
          simp_all

/-- The first cut takes a text apart without loss, before any other separator. -/
theorem cutFirst?_eq_some_iff
    {separator : Char}
    {text before behind : String} :
    cutFirst? separator text = some (before, behind) ↔
      text = before ++ String.singleton separator ++ behind ∧
        separator ∉ before.toList := by
  have characters :
      text = before ++ String.singleton separator ++ behind ↔
        text.toList = before.toList ++ separator :: behind.toList := by
    rw [← String.toList_inj]
    simp
  rw [characters, ← splitFirst?_eq_some_iff]
  constructor
  · intro found
    simp only [cutFirst?, Option.map_eq_some_iff, Prod.exists,
      Prod.mk.injEq] at found
    obtain ⟨left, right, cut, rfl, rfl⟩ := found
    simpa using cut
  · intro cut
    simp [cutFirst?, cut]

/-- The first cut fails exactly without the separator. -/
theorem cutFirst?_eq_none_iff
    {separator : Char}
    {text : String} :
    cutFirst? separator text = none ↔
      separator ∉ text.toList := by
  simp [cutFirst?, splitFirst?_eq_none_iff]

/-- The last cut takes a text apart without loss, behind any other separator. -/
theorem cutLast?_eq_some_iff
    {separator : Char}
    {text before behind : String} :
    cutLast? separator text = some (before, behind) ↔
      text = before ++ String.singleton separator ++ behind ∧
        separator ∉ behind.toList := by
  have characters :
      text = before ++ String.singleton separator ++ behind ↔
        text.toList.reverse =
          behind.toList.reverse ++ separator :: before.toList.reverse := by
    rw [← String.toList_inj, ← List.reverse_inj]
    simp
  rw [characters, ← List.mem_reverse, ← splitFirst?_eq_some_iff]
  constructor
  · intro found
    simp only [cutLast?, Option.map_eq_some_iff, Prod.exists,
      Prod.mk.injEq] at found
    obtain ⟨left, right, cut, rfl, rfl⟩ := found
    simpa using cut
  · intro cut
    simp [cutLast?, cut]

/-- The last cut fails exactly without the separator. -/
theorem cutLast?_eq_none_iff
    {separator : Char}
    {text : String} :
    cutLast? separator text = none ↔
      separator ∉ text.toList := by
  simp [cutLast?, splitFirst?_eq_none_iff]

end Postroom.Text
