/-!
# Signed numbers in decimal

A number of 64 bits with an optional sign, as somebody types it. Digits are read one by one, so of
several faults the first one counts.
-/
namespace RoundKey

/-- Why a text is no signed number. -/
inductive SignedFault where
  /-- There is no text. -/
  | empty
  /-- A character is no digit. -/
  | digit
  /-- The number is above the greatest. -/
  | tooLarge
  /-- The number is below the least. -/
  | tooSmall
deriving DecidableEq, Repr

namespace Signed64

/-- The bound that no number reaches, and the opposite of the least number. -/
def bound : Int := Nat.pow 2 63

/-- The value of a decimal digit. -/
def digit? (character : Char) : Option Nat :=
  if '0' ≤ character ∧ character ≤ '9' then some (character.toNat - 48) else none

/-- The number of some digits after those of `value`, going away from zero. -/
def readDigits (negative : Bool) : (value : Int) → List Char → Except SignedFault Int
  | value, [] => .ok value
  | value, character :: rest =>
    match digit? character with
    | none => .error .digit
    | some digit =>
      let next := if negative then 10 * value - digit else 10 * value + digit
      if next < -bound then .error .tooSmall
      else if bound ≤ next then .error .tooLarge
      else readDigits negative next rest

/-- The number that a text stands for. -/
def read : List Char → Except SignedFault Int
  | [] => .error .empty
  | '+' :: rest => if rest = [] then .error .digit else readDigits false 0 rest
  | '-' :: rest => if rest = [] then .error .digit else readDigits true 0 rest
  | characters => readDigits false 0 characters

end Signed64

/-- The text of a fault. -/
def SignedFault.message : SignedFault → String
  | empty => "cannot parse integer from empty string"
  | digit => "invalid digit found in string"
  | tooLarge => "number too large to fit in target type"
  | tooSmall => "number too small to fit in target type"

end RoundKey
