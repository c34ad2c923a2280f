import Postroom.IpAddress
import Postroom.Toml.Value

namespace Postroom.Toml

/-!
# Numbers, truth values and points in time

All values that are written without quotes or brackets form one token of
letters, digits and a few marks. Digits may be grouped by single underscores.
Integers have 64 bits with a sign, and a float must not be so large that it
rounds to infinity.
-/

/-- The characters of an unquoted value. -/
def isTokenCharacter (character : Char) : Bool :=
  character.isAlphanum ||
    character == '+' ||
    character == '-' ||
    character == '_' ||
    character == '.' ||
    character == ':'

/-- The digits of a row of digits that single underscores may group. -/
def ungroup?
    (isDigit : Char → Bool)
    (characters : List Char) :
    Option (List Char) :=
  let groups := characters.splitOn '_'
  if groups.all fun group => !group.isEmpty && group.all isDigit then
    some groups.flatten
  else
    none

/-- The sign in front of a number, and the number. -/
def splitSign : List Char → Bool × List Char
  | '+' :: rest =>
      (false, rest)
  | '-' :: rest =>
      (true, rest)
  | rest =>
      (false, rest)

/-- Digits of which the first is no superfluous zero. -/
def readDigits? (characters : List Char) : Option (List Char) :=
  (ungroup? Char.isDigit characters).filter
    fun digits => digits.head? != some '0' || digits.length == 1

/-- The value of digits in some base. -/
def valueIn (base : Nat) (digits : List Char) : Nat :=
  digits.foldl
    (fun value digit => base * value + (Ipv6.hexValue? digit).getD 0)
    0

/-- An integer that fits in 64 bits with a sign. -/
def fitting (number : Int) : Option Value :=
  if -9223372036854775808 ≤ number ∧ number < 9223372036854775808 then
    some (.integer number)
  else
    none

/-- An integer without a sign in base 16, 8 or 2. -/
def readBased?
    (base : Nat)
    (characters : List Char) :
    Option Value := do
  let isDigit :=
    fun character => (Ipv6.hexValue? character).any (· < base)
  fitting (Int.ofNat (valueIn base (← ungroup? isDigit characters)))

/-- An integer in any notation. -/
def readInteger? : List Char → Option Value
  | '0' :: 'x' :: digits =>
      readBased? 16 digits
  | '0' :: 'o' :: digits =>
      readBased? 8 digits
  | '0' :: 'b' :: digits =>
      readBased? 2 digits
  | characters => do
      let (negative, rest) := splitSign characters
      let size := Int.ofNat (valueIn 10 (← readDigits? rest))
      fitting (if negative then -size else size)

/-- The least value that rounds to no finite float. -/
def floatOverflow : Nat :=
  Nat.pow 2 1024 - Nat.pow 2 970

/-- Whether a number of some digits with an exponent rounds to a finite float. -/
def isFinite
    (digits : List Char)
    (exponent : Int) :
    Bool :=
  let significant := digits.dropWhile (· == '0')
  let magnitude := Int.ofNat significant.length + exponent
  let value := valueIn 10 significant
  if significant.isEmpty || magnitude < 300 then
    true
  else if 400 < magnitude then
    false
  else
    match exponent with
    | .ofNat power =>
        value * Nat.pow 10 power < floatOverflow
    | .negSucc power =>
        value < floatOverflow * Nat.pow 10 (power + 1)

/-- The characters before a mark and those behind it, if it occurs. -/
def splitAtAny
    (isMark : Char → Bool)
    (characters : List Char) :
    List Char × Option (List Char) :=
  match characters.dropWhile (!isMark ·) with
  | [] =>
      (characters, none)
  | _ :: behind =>
      (characters.takeWhile (!isMark ·), some behind)

/-- The exponent of a float. -/
def readExponent? (characters : List Char) : Option Int := do
  let (negative, rest) := splitSign characters
  let size :=
    Int.ofNat (valueIn 10 (← ungroup? Char.isDigit rest))
  return if negative then -size else size

/-- A float with a fraction or an exponent, or one of the special ones. -/
def readFloat? (characters : List Char) : Option Value := do
  let (negative, unsigned) := splitSign characters
  let whole := Value.float (String.ofList characters)
  if unsigned = "inf".toList ∨ unsigned = "nan".toList then
    return whole
  let (mantissa, exponent?) :=
    splitAtAny (fun mark => mark == 'e' || mark == 'E') unsigned
  let (integral, fraction?) := splitAtAny (· == '.') mantissa
  if exponent?.isNone ∧ fraction?.isNone then
    none
  let integralDigits ← readDigits? integral
  let fractionDigits ←
    match fraction? with
    | none =>
        some []
    | some fraction =>
        ungroup? Char.isDigit fraction
  let exponent ←
    match exponent? with
    | none =>
        some 0
    | some exponent =>
        readExponent? exponent
  if negative ||
      isFinite (integralDigits ++ fractionDigits)
        (exponent - Int.ofNat fractionDigits.length) then
    return whole
  else
    none

/-- A number of exactly so many digits. -/
def readFixed?
    (width : Nat)
    (characters : List Char) :
    Option (Nat × List Char) :=
  let digits := characters.take width
  if digits.length = width ∧ digits.all Char.isDigit = true then
    some (valueIn 10 digits, characters.drop width)
  else
    none

/-- A number written with at least so many digits. -/
def fixedText (width number : Nat) : String :=
  let digits := Nat.toDigits 10 number
  String.ofList (List.replicate (width - digits.length) '0' ++ digits)

/-- The number of days in a month. -/
def daysIn (year month : Nat) : Nat :=
  if month = 2 then
    if year % 4 = 0 ∧ (year % 100 ≠ 0 ∨ year % 400 = 0) then 29 else 28
  else if month = 4 ∨ month = 6 ∨ month = 9 ∨ month = 11 then
    30
  else
    31

/-- Go on behind an expected character. -/
def expect?
    (expected : Char) :
    List Char →
    Option (List Char)
  | first :: rest =>
      if first = expected then some rest else none
  | [] =>
      none

/-- A calendar date. -/
def readDate? (characters : List Char) : Option (String × List Char) := do
  let (year, rest) ← readFixed? 4 characters
  let (month, rest) ← readFixed? 2 (← expect? '-' rest)
  let (day, rest) ← readFixed? 2 (← expect? '-' rest)
  if 1 ≤ month ∧ month ≤ 12 ∧ 1 ≤ day ∧ day ≤ daysIn year month then
    return (fixedText 4 year ++ "-" ++ fixedText 2 month ++ "-" ++
      fixedText 2 day, rest)
  else
    none

/-- The fraction of a second, to nine places and without zeros at the end. -/
def fractionText (digits : List Char) : String :=
  match ((digits.take 9).reverse.dropWhile (· == '0')).reverse with
  | [] =>
      ""
  | significant =>
      "." ++ String.ofList significant

/-- A time of day. -/
def readTime? (characters : List Char) : Option (String × List Char) := do
  let (hour, rest) ← readFixed? 2 characters
  let (minute, rest) ← readFixed? 2 (← expect? ':' rest)
  let (second, rest) ← readFixed? 2 (← expect? ':' rest)
  let (fraction, rest) ←
    match rest with
    | '.' :: behind =>
        let digits := behind.takeWhile Char.isDigit
        if digits = [] then
          none
        else
          some (fractionText digits, behind.dropWhile Char.isDigit)
    | _ =>
        some ("", rest)
  if hour ≤ 23 ∧ minute ≤ 59 ∧ second ≤ 60 then
    return (fixedText 2 hour ++ ":" ++ fixedText 2 minute ++ ":" ++
      fixedText 2 second ++ fraction, rest)
  else
    none

/-- The distance of a local time from universal time. -/
def readOffset? (characters : List Char) : Option String :=
  match characters with
  | [] =>
      some ""
  | ['Z'] | ['z'] =>
      some "Z"
  | sign :: rest => do
      if sign ≠ '+' ∧ sign ≠ '-' then
        none
      let (hour, rest) ← readFixed? 2 rest
      let (minute, rest) ← readFixed? 2 (← expect? ':' rest)
      if hour ≤ 23 ∧ minute ≤ 59 ∧ rest = [] then
        let shown := if hour = 0 ∧ minute = 0 then '+' else sign
        return String.singleton shown ++ fixedText 2 hour ++ ":" ++
          fixedText 2 minute
      else
        none

/-- A date, a time of day or both. -/
def readMoment? (characters : List Char) : Option Value :=
  match readDate? characters with
  | some (date, []) =>
      some (.moment date)
  | some (date, separator :: rest) => do
      if separator ≠ 'T' ∧ separator ≠ 't' ∧ separator ≠ ' ' then
        none
      let (time, rest) ← readTime? rest
      return .moment (date ++ "T" ++ time ++ (← readOffset? rest))
  | none =>
      match readTime? characters with
      | some (time, []) =>
          some (.moment time)
      | _ =>
          none

/-- The value of a token. -/
def ofToken? (token : List Char) : Option Value :=
  if token = "true".toList then
    some (.boolean true)
  else if token = "false".toList then
    some (.boolean false)
  else
    ((readMoment? token).or (readInteger? token)).or (readFloat? token)

/--
The token at the front of a text.

A date and a time may be separated by one space, which then belongs to the
token.
-/
def splitToken (characters : List Char) : List Char × List Char :=
  let token := characters.takeWhile isTokenCharacter
  let rest := characters.dropWhile isTokenCharacter
  match rest with
  | ' ' :: digit :: behind =>
      if digit.isDigit && (readDate? token).any (·.2.isEmpty) then
        (token ++ ' ' :: (digit :: behind).takeWhile isTokenCharacter,
          (digit :: behind).dropWhile isTokenCharacter)
      else
        (token, rest)
  | _ =>
      (token, rest)

end Postroom.Toml
