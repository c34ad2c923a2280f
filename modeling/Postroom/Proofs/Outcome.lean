import Postroom.Reply

namespace Postroom

/-!
# Computations that may fail

When a chain of computations succeeds, each of them succeeded, and a reply
that reports a failure is never plain success.
-/

/-- A chain succeeds exactly when both of its computations succeed. -/
theorem bind_eq_ok_iff
    {first : Except ε α}
    {second : α → Except ε β}
    {result : β} :
    first >>= second = .ok result ↔
      ∃ value, first = .ok value ∧ second value = .ok result := by
  cases first with
  | error failure =>
      simp [bind, Except.bind]
  | ok value =>
      simp [bind, Except.bind]

/-- A chain fails when its first computation does, or its second behind the first. -/
theorem bind_eq_error_iff
    {first : Except ε α}
    {second : α → Except ε β}
    {failure : ε} :
    first >>= second = .error failure ↔
      first = .error failure ∨
        ∃ value, first = .ok value ∧ second value = .error failure := by
  cases first with
  | error failure =>
      simp [bind, Except.bind]
  | ok value =>
      simp [bind, Except.bind]

/-- A mapped computation succeeds exactly when the computation does. -/
theorem map_eq_ok_iff
    {first : Except ε α}
    {change : α → β}
    {result : β} :
    first.map change = .ok result ↔
      ∃ value, first = .ok value ∧ change value = result := by
  cases first with
  | error failure =>
      simp [Except.map]
  | ok value =>
      simp [Except.map]

/-- A mapped computation fails exactly as the computation does. -/
theorem map_eq_error_iff
    {first : Except ε α}
    {change : α → β}
    {failure : ε} :
    first.map change = .error failure ↔ first = .error failure := by
  cases first with
  | error failure =>
      simp [Except.map]
  | ok value =>
      simp [Except.map]

/-- A computation whose errors are renamed succeeds as it did before. -/
theorem mapError_eq_ok_iff
    {first : Except ε α}
    {rename : ε → ζ}
    {result : α} :
    first.mapError rename = .ok result ↔ first = .ok result := by
  cases first with
  | error failure =>
      change Except.error (rename failure) = .ok result ↔ _
      simp
  | ok value =>
      change Except.ok value = .ok result ↔ _
      simp

/-- A computation whose errors are renamed fails under the new name. -/
theorem mapError_eq_error_iff
    {first : Except ε α}
    {rename : ε → ζ}
    {failure : ζ} :
    first.mapError rename = .error failure ↔
      ∃ cause, first = .error cause ∧ rename cause = failure := by
  cases first with
  | error cause =>
      change Except.error (rename cause) = .error failure ↔ _
      simp
  | ok value =>
      change Except.ok value = .error failure ↔ _
      simp

/-- A reply of one line is sent as that line. -/
theorem Reply.wire_line (text : String) :
    (Reply.line text).wire = text ++ "\n" := by
  simp [Reply.wire, Reply.lines, Reply.line]

/-- A failure is never reported as success, with or without a detail. -/
theorem Reply.isOk_error (message : String) :
    (Reply.error message).isOk = false := by
  have notPlain : ("error " ++ message == "ok") = false := by
    rw [beq_eq_false_iff_ne]
    intro same
    have characters := congrArg String.toList same
    simp at characters
  have notDetailed :
      Text.startsWith "ok " ("error " ++ message) = false := by
    rw [Bool.eq_false_iff]
    intro starts
    obtain ⟨rest, same⟩ := Text.startsWith_eq_true_iff.1 starts
    have characters := congrArg String.toList same
    simp at characters
  simp [Reply.isOk, Reply.error, Reply.line, notPlain, notDetailed]

/-- A detail does not keep a reply from reporting success. -/
theorem Reply.isOk_okWith (detail : String) :
    (Reply.okWith detail).isOk = true := by
  have starts : Text.startsWith "ok " ("ok " ++ detail) = true :=
    Text.startsWith_eq_true_iff.2 ⟨detail, rfl⟩
  simp [Reply.isOk, Reply.okWith, Reply.line, starts]

/-- A failure is never reported as plain success. -/
theorem Reply.error_ne_ok (message : String) :
    Reply.error message ≠ Reply.ok := by
  intro same
  have success : (Reply.error message).isOk = true := by
    rw [same]
    rfl
  simp [Reply.isOk_error] at success

end Postroom
