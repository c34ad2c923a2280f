import Postroom.DomainTable

namespace Postroom

/-!
# Startup errors

What can go wrong while a server is configured and started.
-/

/-- Why a server does not start. -/
inductive StartupError where
  | io (reason : String)
  | configuration (reason : String)
  | invalidAuthority (text : String)
  | logging (reason : String)
  deriving Repr, DecidableEq

/-- The wording of a startup error. -/
def StartupError.message : StartupError → String
  | .io reason =>
      "I/O error: " ++ reason
  | .configuration reason =>
      "configuration error: " ++ reason
  | .invalidAuthority text =>
      "invalid authority '" ++ text ++ "': expected host:port"
  | .logging reason =>
      "logging error: " ++ reason

/-- The authority that a text denotes, or the error that quotes the text. -/
def Authority.ofText (text : String) : Except StartupError Authority :=
  match Authority.ofText? text with
  | none =>
      .error (.invalidAuthority text)
  | some authority =>
      .ok authority

/-- Reading succeeds on the texts that denote authorities. -/
theorem Authority.ofText_eq_ok_iff
    {text : String}
    {authority : Authority} :
    ofText text = .ok authority ↔ ofText? text = some authority := by
  unfold ofText
  cases ofText? text <;> simp

/-- Reading fails on all other texts, and the error keeps the text. -/
theorem Authority.ofText_eq_error_iff
    {text : String}
    {error : StartupError} :
    ofText text = .error error ↔
      ofText? text = none ∧ error = .invalidAuthority text := by
  unfold ofText
  cases ofText? text <;> simp [eq_comm]

/-- The table of some named authorities, or the error of the first bad one. -/
def DomainTable.ofTexts
    (names : List (String × String)) :
    Except StartupError DomainTable := do
  let entries ← names.mapM fun (name, text) => do
    return (name, ← Authority.ofText text)
  return Directory.ofList entries

end Postroom
