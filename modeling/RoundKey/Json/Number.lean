import RoundKey.Json.Fault

/-!
# Numbers in JSON

A number without point and exponent is whole if it fits 64 bits, with or without sign. Every
other number is binary floating-point: its digits are taken as far as they fit 64 bits, and
scaled by a power of ten in one rounded step, or in several for very small numbers. A number too
large is malformed. Skimming only checks the form.
-/
namespace RoundKey.Json

open RoundKey.Data

/-- Whether a byte is a decimal digit. -/
def isDigit (byte : UInt8) : Bool := 0x30 ≤ byte && byte ≤ 0x39

/-- The value of a decimal digit. -/
def digitValue (byte : UInt8) : Nat := byte.toNat - 0x30

/-- The greatest whole number that a significand may reach. -/
def significandLimit : Nat := Nat.pow 2 64 - 1

/-- Take digits into a significand as long as it stays within its limit. Returns the significand,
how many digits it took, and the digits left. -/
def absorb : (significand : Nat) → (taken : Nat) → List UInt8 → Nat × Nat × List UInt8
  | significand, taken, [] => (significand, taken, [])
  | significand, taken, digit :: digits =>
    let next := significand * 10 + digitValue digit
    if significandLimit < next then (significand, taken, digit :: digits)
    else absorb next (taken + 1) digits

/-- The greatest power of ten that scales in one step. -/
def greatestPower : Nat := 308

/-- The number nearest to a power of ten. -/
def powerOfTen (exponent : Nat) : Magnitude := .ofNat (Nat.pow 10 exponent)

/-- Divide by a power of ten, in steps of the greatest power. Three steps reach zero from every
significand. -/
def scaleDown : (steps : Nat) → Magnitude → (exponent : Nat) → Magnitude
  | 0, value, _ => value
  | steps + 1, value, exponent =>
    if exponent ≤ greatestPower then value.dividedBy (powerOfTen exponent)
    else if value.isZero then value
    else scaleDown steps (value.dividedBy (powerOfTen greatestPower)) (exponent - greatestPower)

/-- A significand times a power of ten. -/
def scale (significand : Nat) (exponent : Int) : Except Fault Magnitude :=
  let value := Magnitude.ofNat significand
  if exponent < 0 then .ok (scaleDown 4 value exponent.natAbs)
  else if exponent.natAbs ≤ greatestPower then
    let scaled := value.times (powerOfTen exponent.natAbs)
    if scaled = .infinite then .error .malformed else .ok scaled
  else if value.isZero then .ok value
  else .error .malformed

/-- The bound of an exponent. -/
def exponentLimit : Nat := Nat.pow 2 31 - 1

/-- The number of decimal digits; nothing if it passes the exponent limit. -/
def exponent? (digits : List UInt8) : Option Nat :=
  let value := digits.foldl
    (fun value digit => min (value * 10 + digitValue digit) (exponentLimit + 1)) 0
  if value ≤ exponentLimit then some value else none

/-- An exponent within the range of 32 bits. -/
def saturate (exponent : Int) : Int := max (-Nat.pow 2 31) (min (Nat.pow 2 31 - 1) exponent)

/-- Whether an exponent counts down, and the bytes after its sign. -/
def exponentSign : List UInt8 → Bool × List UInt8
  | 0x2B :: rest => (false, rest)
  | 0x2D :: rest => (true, rest)
  | bytes => (false, bytes)

/-- A significand times a power of ten moved by an exponent. Past the exponent limit only zero
and vanishing numbers are left. -/
def scaleBy (significand : Nat) (power : Int) (down : Bool) (digits : List UInt8) :
    Except Fault Magnitude :=
  match exponent? digits with
  | some exponent =>
    scale significand (saturate (if down then power - exponent else power + exponent))
  | none => if significand = 0 || down then .ok (.ofNat 0) else .error .malformed

/-- The number with a significand, a power of ten and what may follow the letter of an
exponent. -/
def readExponent (negative : Bool) (significand : Nat) (power : Int) (bytes : List UInt8) :
    Read Found :=
  let (down, bytes) := exponentSign bytes
  let digits := bytes.takeWhile isDigit
  let rest := bytes.dropWhile isDigit
  if digits = [] then
    if rest = [] then .error .truncated else .error .malformed
  else
    (scaleBy significand power down digits).map fun value => (.float ⟨negative, value⟩, rest)

/-- The number with a significand and a power of ten, and an exponent if one follows. -/
def readScaled (negative : Bool) (significand : Nat) (power : Int) (bytes : List UInt8) :
    Read Found :=
  match bytes with
  | 0x65 :: rest => readExponent negative significand power rest
  | 0x45 :: rest => readExponent negative significand power rest
  | _ => (scale significand power).map fun value => (.float ⟨negative, value⟩, bytes)

/-- The number with a significand, a power of ten and what may follow a decimal point. -/
def readFraction (negative : Bool) (significand : Nat) (power : Int) (bytes : List UInt8) :
    Read Found :=
  let digits := bytes.takeWhile isDigit
  let rest := bytes.dropWhile isDigit
  if digits = [] then
    if rest = [] then .error .truncated else .error .malformed
  else
    let (significand, taken, _) := absorb significand 0 digits
    readScaled negative significand (power - taken) rest

/-- The whole number with a significand; minus zero and numbers below 64 bits are binary. -/
def wholeNumber (negative : Bool) (significand : Nat) : Found :=
  if !negative then .integer significand
  else if significand = 0 ∨ Nat.pow 2 63 < significand then .float ⟨true, .ofNat significand⟩
  else .integer (-significand)

/-- The number after its sign. -/
def readUnsigned (negative : Bool) (bytes : List UInt8) : Read Found :=
  let digits := bytes.takeWhile isDigit
  let rest := bytes.dropWhile isDigit
  if digits = [] then
    if rest = [] then .error .truncated else .error .malformed
  else if digits.head? = some 0x30 ∧ 1 < digits.length then .error .malformed
  else
    let (significand, _, left) := absorb 0 0 digits
    match rest with
    | 0x2E :: rest => readFraction negative significand left.length rest
    | 0x65 :: _ => readScaled negative significand left.length rest
    | 0x45 :: _ => readScaled negative significand left.length rest
    | _ =>
      if left = [] then .ok (wholeNumber negative significand, rest)
      else readScaled negative significand left.length rest

/-- A number at the front of some bytes. -/
def readNumber (bytes : List UInt8) : Read Found :=
  match bytes with
  | 0x2D :: rest => readUnsigned true rest
  | _ => readUnsigned false bytes

/-- The bytes after the digits of an exponent. -/
def skimExponent (bytes : List UInt8) : Except Fault (List UInt8) :=
  let (_, bytes) := exponentSign bytes
  if (bytes.takeWhile isDigit).isEmpty then .error .malformed
  else .ok (bytes.dropWhile isDigit)

/-- The bytes after an exponent, if one follows. -/
def skimScaled (bytes : List UInt8) : Except Fault (List UInt8) :=
  match bytes with
  | 0x65 :: rest => skimExponent rest
  | 0x45 :: rest => skimExponent rest
  | _ => .ok bytes

/-- The bytes after a number whose value does not matter. -/
def skimNumber (bytes : List UInt8) : Except Fault (List UInt8) :=
  let bytes := match bytes with
    | 0x2D :: rest => rest
    | _ => bytes
  let digits := bytes.takeWhile isDigit
  let rest := bytes.dropWhile isDigit
  if digits = [] then .error .malformed
  else if digits.head? = some 0x30 ∧ 1 < digits.length then .error .malformed
  else
    match rest with
    | 0x2E :: rest =>
      if (rest.takeWhile isDigit).isEmpty then .error .malformed
      else skimScaled (rest.dropWhile isDigit)
    | _ => skimScaled rest

/-- The digits of a number of 32 bits, as ASCII. -/
def writeWord (word : UInt32) : List UInt8 :=
  (Nat.toDigits 10 word.toNat).map fun digit => UInt8.ofNat digit.toNat

end RoundKey.Json
