import RoundKey.Bytes
import RoundKey.Pairing.Field

/-!
# Points of the pairing curve

Points over either coordinate field, their multiples by complete formulas in projective
coordinates, and their two byte forms. The compressed form is the first coordinate with three
flag bits on top: always set, infinity, and whether the second coordinate is the larger of two.
Decompression accepts reduced first coordinates of points of the curve.
-/
namespace RoundKey.Pairing

/-- A point of the curve, or the point at infinity. -/
inductive Point (F : Type) where
  /-- The neutral point. -/
  | infinity
  /-- A point with its two coordinates. -/
  | finite (x y : F)
deriving DecidableEq

/-- A point in projective coordinates. -/
structure Projective (F : Type) where
  /-- Numerator of the first coordinate. -/
  x : F
  /-- Numerator of the second coordinate. -/
  y : F
  /-- Common denominator, zero at infinity. -/
  z : F

variable {F : Type} [Coordinate F] [DecidableEq F]

namespace Projective

/-- The point at infinity. -/
def zero : Projective F := ⟨0, 1, 0⟩

/-- Three times an element. -/
def triple (element : F) : F := element + element + element

/-- The sum of two points. The curve has odd order, so one formula serves all pairs. -/
def add (first second : Projective F) : Projective F :=
  let xx := first.x * second.x
  let yy := first.y * second.y
  let zz := first.z * second.z
  let xy := (first.x + first.y) * (second.x + second.y) - xx - yy
  let yz := (first.y + first.z) * (second.y + second.z) - yy - zz
  let xz := (first.x + first.z) * (second.x + second.z) - xx - zz
  let scaledZz := triple (Coordinate.b (F := F)) * zz
  let scaledXz := triple (Coordinate.b (F := F)) * xz
  let sum := yy + scaledZz
  let difference := yy - scaledZz
  { x := xy * difference - yz * scaledXz
    y := scaledXz * triple xx + difference * sum
    z := sum * yz + triple xx * xy }

/-- A multiple of a point. -/
def multiple (count : Nat) (point : Projective F) : Projective F :=
  Bits.multiple add zero point count

end Projective

/-- The order of the subgroup. -/
def order : Nat := 0x73eda753299d7d483339d80809a1d80553bda402fffe5bfeffffffff00000001

namespace Point

/-- The right side of the curve equation. -/
def curve (x : F) : F := x * x * x + Coordinate.b

/-- Whether the coordinates satisfy the curve equation. -/
def isOnCurve : Point F → Bool
  | infinity => true
  | finite x y => y * y == curve x

/-- The point in projective coordinates. -/
def toProjective : Point F → Projective F
  | infinity => Projective.zero
  | finite x y => ⟨x, y, 1⟩

/-- The second half of `G1Affine::from_compressed` and `G2Affine::from_compressed` — whether the
point is on the curve and its multiple by the subgroup order is neutral. -/
def isInSubgroup (point : Point F) : Bool :=
  point.isOnCurve && (Projective.multiple order point.toProjective).z == 0

/-- The weight of the lowest flag bit. -/
def flagWeight (F : Type) [Coordinate F] : Nat := Nat.pow 2 (8 * Coordinate.width F - 3)

/-- `G1Affine::to_compressed`, `G2Affine::to_compressed` — the compressed form. -/
def compress (point : Point F) : List UInt8 :=
  bigEndian (Coordinate.width F) <|
    match point with
    | infinity => 6 * flagWeight F
    | finite x y =>
      (if Coordinate.isLarge y then 5 else 4) * flagWeight F + Coordinate.toNat x

/-- The point of a first coordinate whose second coordinate is the larger or smaller root. -/
def ofFirst? (x : F) (large : Bool) : Option (Point F) := do
  let root ← Coordinate.squareRoot? (curve x)
  some (finite x (if Coordinate.isLarge root = large then root else 0 - root))

/-- The first half of `G1Affine::from_compressed` and `G2Affine::from_compressed` — the point that a
compressed form stands for, which may lie outside the subgroup. -/
def decompress? (bytes : List UInt8) : Option (Point F) := do
  let number := ofBigEndian bytes
  let value := number % flagWeight F
  match number / flagWeight F with
  | 4 => ofFirst? (← Coordinate.ofNat? value) false
  | 5 => ofFirst? (← Coordinate.ofNat? value) true
  | 6 => if value = 0 then some infinity else none
  | _ => none

/-- The uncompressed form: both coordinates, or the infinity flag alone. -/
def uncompressed (point : Point F) : List UInt8 :=
  match point with
  | infinity => 0x40 :: List.replicate (2 * Coordinate.width F - 1) 0
  | finite x y =>
    bigEndian (Coordinate.width F) (Coordinate.toNat x)
      ++ bigEndian (Coordinate.width F) (Coordinate.toNat y)

end Point

end RoundKey.Pairing
