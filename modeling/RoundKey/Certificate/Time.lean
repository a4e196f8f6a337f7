import RoundKey.Der.Element

/-!
# Times in certificates

A certificate names two times, each a date and a time of day in decimal digits. Nothing depends
on which times they are, but they have to be times of the calendar.
-/
namespace RoundKey.Certificate

/-- A date and a time of day. -/
structure Time where
  /-- The year. -/
  year : Nat
  /-- The month, from one. -/
  month : Nat
  /-- The day of the month, from one. -/
  day : Nat
  /-- The hour. -/
  hour : Nat
  /-- The minute. -/
  minute : Nat
  /-- The second. -/
  second : Nat
deriving DecidableEq, Repr

namespace Time

/-- Whether a year has a day more than most. -/
def isLeap (year : Nat) : Bool :=
  year % 4 = 0 && (year % 100 ≠ 0 || year % 400 = 0)

/-- The number of days in a month. -/
def daysIn (year month : Nat) : Nat :=
  if month = 2 then if isLeap year then 29 else 28
  else if month ∈ [4, 6, 9, 11] then 30
  else 31

/-- Whether the calendar and the clock have this time. -/
def isValid (time : Time) : Bool :=
  1 ≤ time.month && time.month ≤ 12 && 1 ≤ time.day && time.day ≤ daysIn time.year time.month
    && time.hour ≤ 23 && time.minute ≤ 59 && time.second ≤ 59

/-- The value of a decimal digit. -/
def digit? (byte : UInt8) : Option Nat :=
  if 48 ≤ byte ∧ byte ≤ 57 then some (byte.toNat - 48) else none

/-- The number in two decimal digits at the front. -/
def readPair : List UInt8 → Option (Nat × List UInt8)
  | high :: low :: rest =>
    match digit? high, digit? low with
    | some high, some low => some (10 * high + low, rest)
    | _, _ => none
  | _ => none

/-- The second at the front, which is zero if it is left out. -/
def readSecond : List UInt8 → Option (Nat × List UInt8)
  | [] => none
  | [byte] => some (0, [byte])
  | bytes => readPair bytes

/-- The rest of a time after its year, and the bytes after it. -/
def readFrom (year : Nat) (bytes : List UInt8) : Option (Time × List UInt8) := do
  let (month, rest) ← readPair bytes
  let (day, rest) ← readPair rest
  let (hour, rest) ← readPair rest
  let (minute, rest) ← readPair rest
  let (second, rest) ← readSecond rest
  let time : Time := { year, month, day, hour, minute, second }
  if time.isValid then some (time, rest) else none

/-- Whether these bytes are a zone: universal time, or a sign, hours and minutes. -/
def isZone : List UInt8 → Bool
  | [letter] => letter = 'Z'.toUInt8
  | sign :: rest =>
    (sign = '+'.toUInt8 || sign = '-'.toUInt8) &&
      match readPair rest with
      | none => false
      | some (hours, rest) =>
        match readPair rest with
        | some (minutes, []) => hours ≤ 25 && minutes ≤ 59
        | _ => false
  | [] => false

/-- The time with a two-digit year, from 1950 to 2049. -/
def ofShort? (bytes : List UInt8) : Option Time :=
  match readPair bytes with
  | none => none
  | some (year, rest) =>
    match readFrom (if year < 50 then 2000 + year else 1900 + year) rest with
    | none => none
    | some (time, rest) => if isZone rest then some time else none

/-- Whether these bytes are universal time after a fraction of a second, which may be left out
and has at most three digits. -/
def isFractionAndZone : List UInt8 → Bool
  | [] => false
  | first :: rest =>
    if first = '.'.toUInt8 then
      let digits := rest.takeWhile fun byte => (digit? byte).isSome
      digits.length ≤ 3 && rest.drop digits.length = ['Z'.toUInt8]
    else first :: rest = ['Z'.toUInt8]

/-- The time with a four-digit year. -/
def ofLong? (bytes : List UInt8) : Option Time :=
  match readPair bytes with
  | none => none
  | some (century, rest) =>
    match readPair rest with
    | none => none
    | some (year, rest) =>
      match readFrom (100 * century + year) rest with
      | none => none
      | some (time, rest) => if isFractionAndZone rest then some time else none

/-- The time at the front, in either form. -/
def read (bytes : List UInt8) : Option (Time × List UInt8) :=
  match Der.Element.read bytes with
  | none => none
  | some (element, rest) =>
    if element.tag.number = Der.Tag.shortTime then
      (ofShort? element.contents).map fun time => (time, rest)
    else if element.tag.number = Der.Tag.longTime then
      (ofLong? element.contents).map fun time => (time, rest)
    else none

end Time

end RoundKey.Certificate
