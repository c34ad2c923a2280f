namespace Postroom.Text

/-!
# Blank characters

The characters with the Unicode property `White_Space`, and the text that is
left when they are taken off both ends. A recipient list is trimmed this way
piece by piece, and the two fields of a delivery report are separated by one
of these characters.
-/

/-- The characters with the Unicode property `White_Space`. -/
def isBlank (character : Char) : Bool :=
  let code := character.toNat
  (0x09 ≤ code && code ≤ 0x0D) ||
    code == 0x20 ||
    code == 0x85 ||
    code == 0xA0 ||
    code == 0x1680 ||
    (0x2000 ≤ code && code ≤ 0x200A) ||
    code == 0x2028 ||
    code == 0x2029 ||
    code == 0x202F ||
    code == 0x205F ||
    code == 0x3000

/-- Drop the longest tail whose characters all satisfy a test. -/
def dropEndWhile
    (test : Char → Bool)
    (text : String) :
    String :=
  String.ofList (text.toList.reverse.dropWhile test).reverse

/-- Drop the blank characters at both ends of a text. -/
def trim (text : String) : String :=
  dropEndWhile isBlank (String.ofList (text.toList.dropWhile isBlank))

@[simp] theorem toList_dropEndWhile
    (test : Char → Bool)
    (text : String) :
    (dropEndWhile test text).toList =
      (text.toList.reverse.dropWhile test).reverse := by
  simp [dropEndWhile]

@[simp] theorem toList_trim (text : String) :
    (trim text).toList =
      ((text.toList.dropWhile isBlank).reverse.dropWhile isBlank).reverse := by
  simp [trim]

end Postroom.Text
