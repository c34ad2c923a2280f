namespace Postroom.Toml

/-!
# TOML values

The values that a TOML document can hold. Floats and points in time are kept
as text, because no setting is one of them: it only matters that they are
well formed and that they are no other kind of value.
-/

/-- A value of a TOML document. -/
inductive Value where
  | string (text : String)
  | integer (number : Int)
  | float (text : String)
  | boolean (truth : Bool)
  /-- A date, a time of day or both, in canonical form. -/
  | moment (text : String)
  | array (elements : List Value)
  | table (entries : List (String × Value))
  deriving Repr, Inhabited

end Postroom.Toml
