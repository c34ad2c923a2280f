namespace Postroom.Text

/-!
# Letters of ASCII

Domain names are compared without regard to the case of the letters `A` to
`Z`. Every other character counts as itself, whatever its case folding in the
wider repertoire.
-/

/-- A text with the letters `A` to `Z` made small. -/
def asciiLower (text : String) : String :=
  String.ofList (text.toList.map Char.toLower)

/-- A text with the letters `a` to `z` made capital. -/
def asciiUpper (text : String) : String :=
  String.ofList (text.toList.map Char.toUpper)

/-- Two texts are equal when the case of the letters `A` to `Z` is ignored. -/
def sameLetters (left right : String) : Bool :=
  asciiLower left == asciiLower right

/-- Whether a text begins with another one. -/
def startsWith (start text : String) : Bool :=
  start.toList.isPrefixOf text.toList

@[simp] theorem sameLetters_self (text : String) :
    sameLetters text text = true := by
  simp [sameLetters]

theorem sameLetters_comm (left right : String) :
    sameLetters left right = sameLetters right left := by
  simp only [sameLetters]
  exact Bool.beq_comm

theorem sameLetters_trans
    {left middle right : String}
    (first : sameLetters left middle = true)
    (second : sameLetters middle right = true) :
    sameLetters left right = true := by
  simp only [sameLetters, beq_iff_eq] at *
  exact first.trans second

/-- A text begins with another one exactly when the rest can be appended. -/
theorem startsWith_eq_true_iff
    {start text : String} :
    startsWith start text = true ↔
      ∃ rest, text = start ++ rest := by
  simp only [startsWith, List.isPrefixOf_iff_prefix]
  constructor
  · rintro ⟨rest, shape⟩
    refine ⟨String.ofList rest, ?_⟩
    rw [← String.toList_inj]
    simp [shape]
  · rintro ⟨rest, rfl⟩
    exact ⟨rest.toList, by simp⟩

end Postroom.Text
