import Postroom.Directory

namespace Postroom

/-!
# User tables

A user table keeps the password of each user of a mailbox server.
-/

/-- The password of each user. -/
abbrev UserTable :=
  Directory String

/-- Why credentials are refused. -/
inductive LoginFailure where
  | unknownUser
  | wrongPassword
  deriving Repr, DecidableEq

namespace UserTable

/-- Check a user's password. -/
def verify
    (users : UserTable)
    (user password : String) :
    Except LoginFailure Unit :=
  match users.find? user with
  | none =>
      .error .unknownUser
  | some expected =>
      if expected = password then
        .ok ()
      else
        .error .wrongPassword

/-- Credentials are accepted exactly when the table pairs them. -/
theorem verify_eq_ok_iff
    {users : UserTable}
    {user password : String} :
    verify users user password = .ok () ↔
      users.find? user = some password := by
  unfold verify
  split
  · rename_i absent
    simp [absent]
  · rename_i expected found
    by_cases same : expected = password <;>
      simp [found, same]

end UserTable

end Postroom
