import Mathlib.Data.List.TakeWhile
import Postroom.Text.Blank
import Postroom.Text.Split

namespace Postroom.Text

/-!
# Pieces of a text and their ends

Cutting a text into pieces and joining the pieces undo each other. What is
taken off the end of a text can be put back, and blank characters at the end
of a list make no difference to its pieces once these are trimmed.
-/

section Pieces

variable {separator : Char}

/-- The pieces of a text make up the text again. -/
theorem intercalate_pieces
    (separator : Char)
    (text : String) :
    String.intercalate (String.singleton separator)
        (pieces separator text) =
      text := by
  have rejoined :
      [separator].intercalate (text.toList.splitOn separator) =
        text.toList :=
    List.intercalate_splitOn separator
  rw [List.splitOn_eq_splitOnP] at rejoined
  rw [← String.toList_inj, String.toList_intercalate,
    String.toList_singleton, pieces, piecesBy, List.map_map]
  simpa [Function.comp_def] using rejoined

/-- Joined texts without the separator are the pieces of what they make up. -/
theorem pieces_intercalate
    {texts : List String}
    (absent : ∀ text ∈ texts, separator ∉ text.toList)
    (inhabited : texts ≠ []) :
    pieces separator
        (String.intercalate (String.singleton separator) texts) =
      texts := by
  have cut :=
    List.splitOn_intercalate separator
      (List.forall_mem_map.2 absent) (by simpa using inhabited)
  rw [List.splitOn_eq_splitOnP] at cut
  rw [pieces, piecesBy, String.toList_intercalate,
    String.toList_singleton, cut, List.map_map]
  simp [Function.comp_def]

/-- A text without a separator is one piece. -/
theorem piecesBy_of_none
    {isSeparator : Char → Bool}
    {text : String}
    (none :
      ∀ character ∈ text.toList, isSeparator character = false) :
    piecesBy isSeparator text = [text] := by
  rw [piecesBy, List.splitOnP_eq_singleton none]
  simp

/-- The pieces on both sides of any separator are cut apart. -/
theorem piecesBy_append
    {isSeparator : Char → Bool}
    (separates : isSeparator separator = true)
    (before behind : String) :
    piecesBy isSeparator
        (before ++ String.singleton separator ++ behind) =
      piecesBy isSeparator before ++ piecesBy isSeparator behind := by
  have apart :=
    @List.splitOnP_append_cons _ isSeparator before.toList
      behind.toList separator separates
  simp only [piecesBy, String.toList_append, String.toList_singleton,
    List.append_assoc, List.singleton_append, apart, List.map_append]

/-- A text is cut at its first separator, if it has one. -/
theorem exists_first_separator
    (isSeparator : Char → Bool)
    (text : String) :
    (∀ character ∈ text.toList, isSeparator character = false) ∨
      ∃ before separator behind,
        text = before ++ String.singleton separator ++ behind ∧
          (∀ character ∈ before.toList, isSeparator character = false) ∧
          isSeparator separator = true := by
  cases found : text.toList.find? isSeparator with
  | none =>
      exact Or.inl (by simpa using found)
  | some separator =>
      obtain ⟨separates, before, behind, shape, whole⟩ :=
        List.find?_eq_some_iff_append.1 found
      refine
        Or.inr
          ⟨String.ofList before, separator, String.ofList behind, ?_, ?_,
            separates⟩
      · rw [← String.toList_inj]
        simp [shape]
      · simpa using whole

/-- There is one piece exactly when nothing separates. -/
theorem piecesBy_eq_singleton_iff
    {isSeparator : Char → Bool}
    {text piece : String} :
    piecesBy isSeparator text = [piece] ↔
      text = piece ∧
        ∀ character ∈ piece.toList, isSeparator character = false := by
  constructor
  · intro cut
    rcases exists_first_separator isSeparator text with
      whole | ⟨before, separator, behind, rfl, whole, separates⟩
    · rw [piecesBy_of_none whole] at cut
      obtain rfl := List.singleton_inj.1 cut
      exact ⟨rfl, whole⟩
    · rw [piecesBy_append separates, piecesBy_of_none whole] at cut
      have nothing : piecesBy isSeparator behind = [] :=
        (List.cons.inj cut).2
      simp [piecesBy] at nothing
  · rintro ⟨rfl, whole⟩
    exact piecesBy_of_none whole

/-- There are two pieces exactly around the only separator. -/
theorem piecesBy_eq_pair_iff
    {isSeparator : Char → Bool}
    {text first second : String} :
    piecesBy isSeparator text = [first, second] ↔
      ∃ separator,
        isSeparator separator = true ∧
          text = first ++ String.singleton separator ++ second ∧
          (∀ character ∈ first.toList, isSeparator character = false) ∧
          ∀ character ∈ second.toList, isSeparator character = false := by
  constructor
  · intro cut
    rcases exists_first_separator isSeparator text with
      whole | ⟨before, separator, behind, rfl, whole, separates⟩
    · rw [piecesBy_of_none whole] at cut
      cases cut
    · rw [piecesBy_append separates, piecesBy_of_none whole] at cut
      obtain ⟨rfl, rest⟩ := List.cons.inj cut
      obtain ⟨rfl, wholeToo⟩ := piecesBy_eq_singleton_iff.1 rest
      exact ⟨separator, separates, rfl, whole, wholeToo⟩
  · rintro ⟨separator, separates, rfl, whole, wholeToo⟩
    rw [piecesBy_append separates, piecesBy_of_none whole,
      piecesBy_of_none wholeToo]
    rfl

theorem pieces_of_not_mem
    {text : String}
    (absent : separator ∉ text.toList) :
    pieces separator text = [text] := by
  refine piecesBy_of_none ?_
  intro character member
  rw [beq_eq_false_iff_ne]
  rintro rfl
  exact absent member

/-- The pieces on both sides of a separator are cut apart. -/
theorem pieces_append
    (before behind : String) :
    pieces separator (before ++ String.singleton separator ++ behind) =
      pieces separator before ++ pieces separator behind := by
  unfold pieces
  exact piecesBy_append (by simp) before behind

/-- A separator that stands once divides a text into two pieces. -/
theorem pieces_eq_pair_iff
    {text first second : String} :
    pieces separator text = [first, second] ↔
      text = first ++ String.singleton separator ++ second ∧
        separator ∉ first.toList ∧ separator ∉ second.toList := by
  have whole (piece : String) :
      (∀ character ∈ piece.toList, (character == separator) = false) ↔
        separator ∉ piece.toList := by
    simp only [beq_eq_false_iff_ne]
    exact List.forall_mem_ne'
  simp only [pieces, piecesBy_eq_pair_iff, whole, beq_iff_eq,
    exists_eq_left]

theorem pieces_ne_nil
    (separator : Char)
    (text : String) :
    pieces separator text ≠ [] := by
  simp [pieces, piecesBy, List.splitOnP_ne_nil]

/-- A text that is joined with others keeps its characters. -/
theorem mem_intercalate
    (between : String)
    {character : Char}
    {text : String}
    {texts : List String}
    (joined : text ∈ texts)
    (member : character ∈ text.toList) :
    character ∈ (String.intercalate between texts).toList := by
  induction texts with
  | nil =>
      cases joined
  | cons first rest inductionHypothesis =>
      by_cases last : rest = []
      · rw [last, List.mem_singleton] at joined
        simpa [last, ← joined] using member
      · rw [String.intercalate_cons_of_ne_nil last]
        simp only [String.toList_append, List.mem_append]
        rcases List.mem_cons.1 joined with rfl | behind
        · exact Or.inl (Or.inl member)
        · exact Or.inr (inductionHypothesis behind)

/-- A piece of a text has no other characters than the text. -/
theorem mem_of_mem_pieces
    {character : Char}
    {text piece : String}
    (isPiece : piece ∈ pieces separator text)
    (member : character ∈ piece.toList) :
    character ∈ text.toList := by
  have inText :=
    mem_intercalate (String.singleton separator) isPiece member
  rwa [intercalate_pieces] at inText

/-- No piece of a text has a separator. -/
theorem separator_not_mem_of_mem_pieces
    {text piece : String}
    (isPiece : piece ∈ pieces separator text) :
    separator ∉ piece.toList := by
  induction size : text.toList.length using Nat.strong_induction_on
    generalizing text with
  | h length inductionHypothesis =>
      cases cut : cutFirst? separator text with
      | none =>
          have absent := cutFirst?_eq_none_iff.1 cut
          rw [pieces_of_not_mem absent, List.mem_singleton] at isPiece
          rwa [isPiece]
      | some halves =>
          obtain ⟨before, behind⟩ := halves
          obtain ⟨rfl, absent⟩ := cutFirst?_eq_some_iff.1 cut
          rw [pieces_append, pieces_of_not_mem absent,
            List.singleton_append, List.mem_cons] at isPiece
          rcases isPiece with rfl | isPiece
          · exact absent
          · refine inductionHypothesis _ ?_ isPiece rfl
            simp only [String.toList_append, List.length_append] at size
            simp at size
            omega

/-- The first piece of a text stands at its beginning. -/
theorem exists_pieces_eq_cons
    (separator : Char)
    (text : String) :
    ∃ first rest,
      pieces separator text = first :: rest ∧
        first.toList <+: text.toList := by
  cases cut : cutFirst? separator text with
  | none =>
      have absent := cutFirst?_eq_none_iff.1 cut
      exact ⟨text, [], pieces_of_not_mem absent, List.prefix_rfl⟩
  | some halves =>
      obtain ⟨before, behind⟩ := halves
      obtain ⟨rfl, absent⟩ := cutFirst?_eq_some_iff.1 cut
      refine ⟨before, pieces separator behind, ?_, ?_⟩
      · rw [pieces_append, pieces_of_not_mem absent]
        rfl
      · simp

end Pieces

section Ends

variable {test : Char → Bool}

/-- What is dropped at the end of a text satisfies the test. -/
theorem exists_eq_dropEndWhile_append
    (test : Char → Bool)
    (text : String) :
    ∃ tail : String,
      text = dropEndWhile test text ++ tail ∧
        ∀ character ∈ tail.toList, test character = true := by
  refine
    ⟨String.ofList (text.toList.reverse.takeWhile test).reverse, ?_, ?_⟩
  · rw [← String.toList_inj, String.toList_append, toList_dropEndWhile,
      String.toList_ofList, ← List.reverse_append,
      List.takeWhile_append_dropWhile, List.reverse_reverse]
  · intro character member
    rw [String.toList_ofList, List.mem_reverse] at member
    exact List.all_eq_true.1 List.all_takeWhile character member

/-- What is left of a text ends with nothing that satisfies the test. -/
theorem getLast?_dropEndWhile
    {text : String}
    {character : Char}
    (last : (dropEndWhile test text).toList.getLast? = some character) :
    test character = false := by
  rw [toList_dropEndWhile, List.getLast?_reverse] at last
  have stops := List.head?_dropWhile_not test text.toList.reverse
  rw [last] at stops
  simpa using stops

/-- Blank characters at the end of a text are trimmed off with the others. -/
theorem trim_append
    (text : String)
    {blanks : String}
    (blank : ∀ character ∈ blanks.toList, isBlank character = true) :
    trim (text ++ blanks) = trim text := by
  have none : blanks.toList.dropWhile isBlank = [] := by
    have all := @List.dropWhile_append_of_pos _ isBlank _ [] blank
    rwa [List.append_nil] at all
  have reversed :
      ∀ character ∈ blanks.toList.reverse, isBlank character = true :=
    fun character member => blank character (List.mem_reverse.1 member)
  rw [← String.toList_inj, toList_trim, toList_trim,
    String.toList_append, List.dropWhile_append]
  split
  · rename_i empty
    rw [List.isEmpty_iff] at empty
    rw [none, empty]
  · rw [List.reverse_append, List.dropWhile_append_of_pos reversed]

/-- Blank characters at the end of a list are no part of its trimmed pieces. -/
theorem map_trim_pieces_append
    {separator : Char}
    (visible : isBlank separator = false)
    (list : String)
    {blanks : String}
    (blank : ∀ character ∈ blanks.toList, isBlank character = true) :
    (pieces separator (list ++ blanks)).map trim =
      (pieces separator list).map trim := by
  have absent : separator ∉ blanks.toList := by
    intro member
    rw [blank separator member] at visible
    cases visible
  -- Only the piece behind the last separator gets longer.
  have lastPiece
      {piece : String}
      (whole : separator ∉ piece.toList) :
      (pieces separator (piece ++ blanks)).map trim =
        (pieces separator piece).map trim := by
    have longer : separator ∉ (piece ++ blanks).toList := by
      simp [whole, absent]
    rw [pieces_of_not_mem longer, pieces_of_not_mem whole,
      List.map_singleton, List.map_singleton, trim_append piece blank]
  cases cut : cutLast? separator list with
  | none =>
      exact lastPiece (cutLast?_eq_none_iff.1 cut)
  | some halves =>
      obtain ⟨before, behind⟩ := halves
      obtain ⟨rfl, whole⟩ := cutLast?_eq_some_iff.1 cut
      rw [String.append_assoc, pieces_append, pieces_append,
        List.map_append, List.map_append, lastPiece whole]

/-- Nothing is dropped from a text that ends otherwise. -/
theorem dropEndWhile_of_getLast?
    {text : String}
    (ends :
      ∀ character, text.toList.getLast? = some character →
        test character = false) :
    dropEndWhile test text = text := by
  have kept : text.toList.reverse.dropWhile test = text.toList.reverse := by
    rw [List.dropWhile_eq_self_iff]
    intro inhabited
    have last : text.toList.getLast? = some text.toList.reverse[0] := by
      rw [List.getLast?_eq_head?_reverse, List.head?_eq_getElem?,
        List.getElem?_eq_getElem inhabited]
    simpa using ends _ last
  rw [← String.toList_inj, toList_dropEndWhile, kept,
    List.reverse_reverse]

/-- Nothing is dropped from a text that has nothing of the kind. -/
theorem dropEndWhile_of_none
    {text : String}
    (none : ∀ character ∈ text.toList, test character = false) :
    dropEndWhile test text = text :=
  dropEndWhile_of_getLast? fun character last =>
    none character (List.mem_of_getLast? last)

/-- A text without blanks has nothing to trim. -/
theorem trim_of_none
    {text : String}
    (none : ∀ character ∈ text.toList, isBlank character = false) :
    trim text = text := by
  have kept : text.toList.dropWhile isBlank = text.toList := by
    rw [List.dropWhile_eq_self_iff]
    intro inhabited
    simpa using none _ (List.getElem_mem inhabited)
  rw [trim, kept, String.ofList_toList, dropEndWhile_of_none none]

/-- Trimming only takes characters away. -/
theorem mem_of_mem_trim
    {character : Char}
    {text : String}
    (member : character ∈ (trim text).toList) :
    character ∈ text.toList := by
  rw [toList_trim, List.mem_reverse] at member
  have kept :=
    List.mem_reverse.1 ((List.dropWhile_suffix isBlank).mem member)
  exact (List.dropWhile_suffix isBlank).mem kept

end Ends

end Postroom.Text
