import RoundKey.Data.Mismatch
import RoundKey.Toml.Text

/-!
# Numbers and times in TOML

Whole numbers of 64 bits in four bases, binary floating-point numbers, and dates and times. A
single underscore may stand between two digits. A number too large for its type is malformed,
as is a date or time with a part out of its range.
-/
namespace RoundKey.Toml

open RoundKey.Data

/-- Whether a character is a decimal digit. -/
def isDigit (character : Char) : Bool := '0' ≤ character && character ≤ '9'

/-- Digits of a base with underscores between them; the digits come without underscores. -/
def readDigits (accepts : Char → Bool) : List Char → Read (List Char)
  | '_' :: _ => none
  | digit :: '_' :: rest =>
    if accepts digit then prepend [digit] (readDigits accepts rest) else none
  | digit :: next :: rest =>
    if accepts digit then
      if accepts next then prepend [digit] (readDigits accepts (next :: rest))
      else some ([digit], next :: rest)
    else none
  | [digit] => if accepts digit then some ([digit], []) else none
  | [] => none

/-- Whether a sign is minus, and the characters after a sign. -/
def readSign : List Char → Bool × List Char
  | '+' :: rest => (false, rest)
  | '-' :: rest => (true, rest)
  | characters => (false, characters)

/-- The decimal digits of a whole number without sign. A leading zero stands alone. -/
def readWhole : List Char → Read (List Char)
  | '0' :: rest => some (['0'], rest)
  | characters => readDigits isDigit characters

/-- The number of digits of a base. -/
def numberOf (base : Nat) (digits : List Char) : Nat :=
  digits.foldl (fun value digit => base * value + (Hex.value? digit).getD 0) 0

/-- A whole number within the range of 64 bits with sign. -/
def inRange (value : Int) : Option Int :=
  if -Nat.pow 2 63 ≤ value ∧ value < Nat.pow 2 63 then some value else none

/-- A whole number of a base after its two leading characters. -/
def readBased (base : Nat) (characters : List Char) : Read Int :=
  let accepts (character : Char) : Bool :=
    match Hex.value? character with
    | some value => decide (value < base)
    | none => false
  match readDigits accepts characters with
  | none => none
  | some (digits, rest) => (inRange (numberOf base digits)).map fun value => (value, rest)

/-- A decimal whole number. -/
def readDecimal (characters : List Char) : Read Int :=
  let (negative, unsigned) := readSign characters
  match readWhole unsigned with
  | none => none
  | some (digits, rest) =>
    let value : Int := numberOf 10 digits
    (inRange (if negative then -value else value)).map fun value => (value, rest)

/-- A whole number. -/
def readInteger : List Char → Read Int
  | '0' :: 'x' :: rest => readBased 16 rest
  | '0' :: 'o' :: rest => readBased 8 rest
  | '0' :: 'b' :: rest => readBased 2 rest
  | characters => readDecimal characters

/-- The power of ten after the letter of an exponent, if one follows. -/
def readPower : List Char → Read Int
  | 'e' :: rest => power rest
  | 'E' :: rest => power rest
  | _ => none
where
  /-- The power of ten itself. -/
  power (characters : List Char) : Read Int :=
    let (negative, unsigned) := readSign characters
    match readDigits isDigit unsigned with
    | none => none
    | some (digits, rest) =>
      let value : Int := numberOf 10 digits
      some (if negative then -value else value, rest)

/-- The number nearest to `digits * 10 ^ power`. Numbers far out of range need no arithmetic. -/
def nearest (digits : Nat) (power : Int) : Magnitude :=
  let weight : Int := (Nat.toDigits 10 digits).length + power
  if digits = 0 ∨ weight < -400 then .ofNat 0
  else if 400 < weight then .infinite
  else .ofDecimal digits power

/-- A number with a sign, unless it is too large. Too large a negative number is infinite. -/
def signed (negative : Bool) (magnitude : Magnitude) : Option Binary64 :=
  if magnitude = .infinite ∧ !negative then none else some ⟨negative, magnitude⟩

/-- What may follow the whole digits of a number that is not whole: a fraction, a power of ten,
or both. The digits of the fraction come with the power. -/
def readTail : List Char → Read (List Char × Int)
  | '.' :: rest =>
    match readDigits isDigit rest with
    | none => none
    | some (fraction, rest) =>
      if rest.head? = some 'e' ∨ rest.head? = some 'E' then
        match readPower rest with
        | none => none
        | some (power, rest) => some ((fraction, power), rest)
      else some ((fraction, 0), rest)
  | characters =>
    match readPower characters with
    | none => none
    | some (power, rest) => some (([], power), rest)

/-- The names of the numbers that have no digits. -/
def readNamed : List Char → Read Magnitude
  | 'i' :: 'n' :: 'f' :: rest => some (.infinite, rest)
  | 'n' :: 'a' :: 'n' :: rest => some (.undefined, rest)
  | _ => none

/-- A number that is not whole. -/
def readFloat (characters : List Char) : Read Binary64 :=
  let (negative, unsigned) := readSign characters
  match readNamed unsigned with
  | some (magnitude, rest) => some (⟨negative, magnitude⟩, rest)
  | none =>
    match readWhole unsigned with
    | none => none
    | some (whole, rest) =>
      match readTail rest with
      | none => none
      | some ((fraction, power), rest) =>
        let magnitude := nearest (numberOf 10 (whole ++ fraction)) (power - fraction.length)
        (signed negative magnitude).map fun value => (value, rest)

/-- A number of exactly so many digits. -/
def readFixed (count : Nat) (characters : List Char) : Read Nat :=
  let digits := characters.take count
  if digits.length = count ∧ digits.all isDigit then
    some (numberOf 10 digits, characters.drop count)
  else none

/-- A number of two digits in a range. -/
def readPart (low high : Nat) (characters : List Char) : Read Nat :=
  match readFixed 2 characters with
  | none => none
  | some (value, rest) => if low ≤ value ∧ value ≤ high then some (value, rest) else none

/-- A number of two digits in a range after a separator. -/
def readNext (separator : Char) (low high : Nat) : List Char → Read Nat
  | [] => none
  | character :: rest => if character = separator then readPart low high rest else none

/-- The characters after a date. -/
def skipDate (characters : List Char) : Option (List Char) := do
  let (_, rest) ← readFixed 4 characters
  let (_, rest) ← readNext '-' 1 12 rest
  let (_, rest) ← readNext '-' 1 31 rest
  some rest

/-- The characters after a fraction of a second, if one follows. -/
def skipFraction : List Char → Option (List Char)
  | '.' :: digit :: rest => if isDigit digit then some (rest.dropWhile isDigit) else none
  | '.' :: _ => none
  | characters => some characters

/-- The characters after a time of day. -/
def skipTime (characters : List Char) : Option (List Char) := do
  let (_, rest) ← readPart 0 23 characters
  let (_, rest) ← readNext ':' 0 59 rest
  let (_, rest) ← readNext ':' 0 60 rest
  skipFraction rest

/-- The characters after an offset from universal time, if one follows. -/
def skipOffset : List Char → Option (List Char)
  | 'Z' :: rest => some rest
  | 'z' :: rest => some rest
  | sign :: rest =>
    if sign = '+' ∨ sign = '-' then do
      let (_, rest) ← readPart 0 23 rest
      let (_, rest) ← readNext ':' 0 59 rest
      some rest
    else some (sign :: rest)
  | [] => some []

/-- Whether a character stands between a date and a time. -/
def isTimeMark (character : Char) : Bool :=
  character = 'T' || character = 't' || character = ' '

/-- The characters after a time of day that follows a date, if one does. -/
def skipTimeOfDate : List Char → Option (List Char)
  | [] => some []
  | mark :: rest =>
    if isTimeMark mark then
      match skipTime rest with
      | some rest => skipOffset rest
      | none => some (mark :: rest)
    else some (mark :: rest)

/-- The characters after a date, a time, or both. -/
def skipMoment (characters : List Char) : Option (List Char) :=
  if (characters.drop 4).head? = some '-' then do skipTimeOfDate (← skipDate characters)
  else skipTime characters

end RoundKey.Toml
