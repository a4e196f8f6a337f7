/-!
# Binary floating-point numbers of 64 bits

Exact values `mantissa * 2 ^ exponent` with rounding to the nearest representable number, ties
to the even mantissa, and the shortest decimal digits that read back as the same number. The
numbers only appear in diagnostics, so nothing here touches machine floats.
-/
namespace RoundKey

/-- The absolute value of a number. -/
inductive Magnitude where
  /-- The value `mantissa * 2 ^ exponent`, with the exponent no less than `-1074`. -/
  | finite (mantissa : Nat) (exponent : Int)
  /-- Too large for any finite number. -/
  | infinite
  /-- Not a number. -/
  | undefined
deriving DecidableEq, Repr

/-- A number with its sign. -/
structure Binary64 where
  /-- Whether the sign is minus; zero has a sign too. -/
  negative : Bool
  /-- The absolute value. -/
  magnitude : Magnitude
deriving DecidableEq, Repr

namespace Magnitude

/-- Scale a quotient by a power of two, as numerator and denominator. -/
def scale (numerator denominator : Nat) (exponent : Int) : Nat × Nat :=
  if exponent < 0 then (numerator, denominator * Nat.pow 2 exponent.natAbs)
  else (numerator * Nat.pow 2 exponent.natAbs, denominator)

/-- The nearest integer to a quotient, a half going to the even neighbour. -/
def nearest (numerator denominator : Nat) : Nat :=
  let floor := numerator / denominator
  let twice := 2 * (numerator % denominator)
  if twice < denominator then floor
  else if denominator < twice then floor + 1
  else floor + floor % 2

/-- The representable number nearest to a quotient of positive numbers. -/
def ofQuotient (numerator denominator : Nat) : Magnitude :=
  if numerator = 0 then finite 0 (-1074)
  else
    let low : Int := max ((numerator.log2 : Int) - denominator.log2 - 53) (-1074)
    let tight := scale numerator denominator (-low)
    let exponent := if Nat.pow 2 53 ≤ tight.1 / tight.2 then low + 1 else low
    let ratio := scale numerator denominator (-exponent)
    let rounded := nearest ratio.1 ratio.2
    let (mantissa, exponent) :=
      if rounded = Nat.pow 2 53 then (Nat.pow 2 52, exponent + 1) else (rounded, exponent)
    if exponent ≤ 971 then finite mantissa exponent else infinite

/-- The representable number nearest to an integer. -/
def ofNat (value : Nat) : Magnitude := ofQuotient value 1

/-- The representable number nearest to `digits * 10 ^ exponent`. -/
def ofDecimal (digits : Nat) (exponent : Int) : Magnitude :=
  if exponent < 0 then ofQuotient digits (Nat.pow 10 exponent.natAbs)
  else ofQuotient (digits * Nat.pow 10 exponent.natAbs) 1

/-- The rounded product of two numbers. -/
def times : Magnitude → Magnitude → Magnitude
  | finite first exponent, finite second exponent' =>
    let ratio := scale (first * second) 1 (exponent + exponent')
    ofQuotient ratio.1 ratio.2
  | _, _ => infinite

/-- The rounded quotient of a number and a positive number. -/
def dividedBy : Magnitude → Magnitude → Magnitude
  | finite first exponent, finite second exponent' =>
    let ratio := scale first second (exponent - exponent')
    ofQuotient ratio.1 ratio.2
  | _, _ => infinite

/-- Whether the value is zero. -/
def isZero : Magnitude → Bool
  | finite 0 _ => true
  | _ => false

/-- How many decimal digits stand before the point of a positive quotient; not positive when
the quotient is below one tenth. -/
def pointPosition (numerator denominator : Nat) : Int :=
  let guess : Int := (Nat.toDigits 10 numerator).length - (Nat.toDigits 10 denominator).length
  let reaches :=
    if guess < 0 then denominator ≤ numerator * Nat.pow 10 guess.natAbs
    else denominator * Nat.pow 10 guess.natAbs ≤ numerator
  if reaches then guess + 1 else guess

/-- The digits of the shortest decimal in the rounding interval of a number, where twice the
interval is `[low, high]` and `bounds` says whether its ends belong to it. Tries `digits` and
then each longer precision in turn. -/
def shortestFrom (value low high denominator : Nat) (bounds : Bool) (point : Int) :
    (tries : Nat) → (digits : Nat) → Nat × Int
  | 0, digits => (0, point - digits)
  | tries + 1, digits =>
    let exponent : Int := point - digits
    let grid (steps : Nat) : Nat :=
      if exponent < 0 then steps * denominator else steps * denominator * Nat.pow 10 exponent.natAbs
    let raise (number : Nat) : Nat :=
      if exponent < 0 then number * Nat.pow 10 exponent.natAbs else number
    let inside (steps : Nat) : Bool :=
      let number := 2 * grid steps
      if bounds then raise low ≤ number && number ≤ raise high
      else raise low < number && number < raise high
    let floor := raise value / grid 1
    let nearer := if 2 * (raise value - grid floor) ≤ grid 1 then floor else floor + 1
    let other := if nearer = floor then floor + 1 else floor
    if inside nearer then (nearer, exponent)
    else if inside other then (other, exponent)
    else shortestFrom value low high denominator bounds point tries (digits + 1)

/-- The shortest decimal `digits * 10 ^ exponent` that reads back as a positive number. -/
def shortest (mantissa : Nat) (exponent : Int) : Nat × Int :=
  let ratio := scale mantissa 1 exponent
  let half := scale 1 1 exponent
  let denominator := ratio.2
  let below := if mantissa = Nat.pow 2 52 ∧ -1074 < exponent then half.1 else 2 * half.1
  shortestFrom (2 * ratio.1) (4 * ratio.1 - below) (4 * ratio.1 + 2 * half.1)
    (2 * denominator) (mantissa % 2 == 0) (pointPosition ratio.1 denominator) 18 1

/-- Drop zeros at the end of decimal digits, at most `count`. -/
def trim : (count : Nat) → (digits : Nat) → (exponent : Int) → Nat × Int
  | 0, digits, exponent => (digits, exponent)
  | count + 1, digits, exponent =>
    if digits % 10 = 0 ∧ digits ≠ 0 then trim count (digits / 10) (exponent + 1)
    else (digits, exponent)

/-- Zeros. -/
def zeros (count : Nat) : List Char := List.replicate count '0'

/-- Digits with a point after the first `point`, and at least one digit on either side. -/
def positional (digits : List Char) (point : Int) : List Char :=
  if point ≤ 0 then '0' :: '.' :: zeros point.natAbs ++ digits
  else if digits.length ≤ point.natAbs then
    digits ++ zeros (point.natAbs - digits.length) ++ ['.', '0']
  else digits.take point.natAbs ++ '.' :: digits.drop point.natAbs

/-- Digits with a point after the first, and the power of ten that this leaves. -/
def scientific (digits : List Char) (point : Int) : List Char :=
  let power := point - 1
  digits.take 1 ++ (if digits.length ≤ 1 then [] else '.' :: digits.drop 1)
    ++ ['e', if power < 0 then '-' else '+'] ++ Nat.toDigits 10 power.natAbs

end Magnitude

/-- Which numbers are written without a power of ten. -/
inductive PowerStyle where
  /-- All of them. -/
  | never
  /-- Those whose first digit has a weight between these powers of ten. -/
  | outside (low high : Int)

/-- The text of an absolute value: its shortest digits. -/
def Magnitude.text (style : PowerStyle) : Magnitude → String
  | infinite => "inf"
  | undefined => "NaN"
  | finite 0 _ => "0.0"
  | finite mantissa exponent =>
    let (digits, power) := shortest mantissa exponent
    let (digits, power) := trim 18 digits power
    let digits := Nat.toDigits 10 digits
    let point := power + digits.length
    String.ofList <|
      match style with
      | .never => positional digits point
      | .outside low high =>
        if low < point ∧ point ≤ high + 1 then positional digits point
        else scientific digits point

/-- The text of a number. A number that is undefined has no sign. -/
def Binary64.text (style : PowerStyle) (number : Binary64) : String :=
  if number.negative && number.magnitude != .undefined then "-" ++ number.magnitude.text style
  else number.magnitude.text style

end RoundKey
