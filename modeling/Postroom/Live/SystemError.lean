namespace Postroom.Live

/-!
# Errors of the system

The system numbers its errors. The reason of an error shows the number next to
the wording that operators know.
-/

/-- The number that an error of the system carries, and its wording. -/
def codeAndDetails? (error : IO.Error) : Option (UInt32 × String) :=
  match error with
  | .alreadyExists _ code details
  | .inappropriateType _ code details
  | .noFileOrDirectory _ code details
  | .invalidArgument _ code details
  | .permissionDenied _ code details
  | .resourceExhausted _ code details
  | .interrupted _ code details
  | .noSuchThing _ code details =>
      some (code, details)
  | .otherError code details
  | .resourceBusy code details
  | .resourceVanished code details
  | .unsupportedOperation code details
  | .hardwareFault code details
  | .unsatisfiedConstraints code details
  | .illegalOperation code details
  | .protocolError code details
  | .timeExpired code details =>
      some (code, details)
  | .unexpectedEof | .userError _ =>
      none

/-- The number of an error, whichever sign it was stored with. -/
def errorNumber (code : UInt32) : Nat :=
  if code < 2147483648 then code.toNat else (0 - code).toNat

/-- The wording of the errors that a mail server meets. -/
def knownReason? (number : Nat) : Option String :=
  match number with
  | 2 =>
      some "No such file or directory"
  | 13 =>
      some "Permission denied"
  | 20 =>
      some "Not a directory"
  | 21 =>
      some "Is a directory"
  | 32 =>
      some "Broken pipe"
  | 98 =>
      some "Address already in use"
  | 99 =>
      some "Cannot assign requested address"
  | 104 =>
      some "Connection reset by peer"
  | 110 =>
      some "Connection timed out"
  | 111 =>
      some "Connection refused"
  | 113 =>
      some "No route to host"
  | _ =>
      none

/-- The reason of an error while a host was looked up. -/
def lookupReason (details : String) : String :=
  "failed to lookup address information: " ++ details

/-- The first number of the errors of looking up hosts. -/
def firstLookupError : Nat :=
  3000

/-- The reason of an error. -/
def reason (error : IO.Error) : String :=
  match codeAndDetails? error with
  | none =>
      toString error
  | some (code, details) =>
      let number := errorNumber code
      if number = 3008 then
        lookupReason "Name or service not known"
      else if number = 3001 then
        lookupReason "Temporary failure in name resolution"
      else if firstLookupError ≤ number ∧ number < 3100 then
        lookupReason details
      else
        (knownReason? number).getD details ++
          " (os error " ++ toString number ++ ")"

end Postroom.Live
