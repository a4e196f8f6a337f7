import RoundKey.Bits
import RoundKey.Bytes

/-!
# Weierstrass curves

Curves of points with `y * y = x * x * x - 3 * x + b` over a prime field, with a generator of
prime order. Points have homogeneous coordinates, and one formula adds every pair of them,
because no point of an odd order is an exception to it. A point is written as a mark and both
coordinates, each below the number of field elements.
-/
namespace RoundKey

/-- A curve, by the number of bits in a coordinate. -/
inductive Curve where
  /-- 256 bits. -/
  | p256
  /-- 384 bits. -/
  | p384
deriving DecidableEq, Repr

namespace Curve

/-- The number of bytes in a coordinate. -/
def size : Curve → Nat
  | p256 => 32
  | p384 => 48

/-- The number of field elements. -/
def modulus : Curve → Nat
  | p256 => 0xffffffff00000001000000000000000000000000ffffffffffffffffffffffff
  | p384 =>
    0xfffffffffffffffffffffffffffffffffffffffffffffffffffffffffffffffeffffffff0000000000000000ffffffff

/-- The order of the generator. -/
def order : Curve → Nat
  | p256 => 0xffffffff00000000ffffffffffffffffbce6faada7179e84f3b9cac2fc632551
  | p384 =>
    0xffffffffffffffffffffffffffffffffffffffffffffffffc7634d81f4372ddf581a0db248b0a77aecec196accc52973

instance (curve : Curve) : @NeZero Nat Zero.ofOfNat0 curve.modulus := ⟨by cases curve <;> decide⟩

/-- Field elements. -/
abbrev Field (curve : Curve) := Fin curve.modulus

/-- The constant term of the equation. -/
def b : (curve : Curve) → curve.Field
  | p256 => 0x5ac635d8aa3a93e7b3ebbd55769886bc651d06b0cc53b0f63bce3c3e27d2604b
  | p384 =>
    0xb3312fa7e23ee7e4988e056be3f82d19181d9c6efe8141120314088f5013875ac656398d8a2ed19d2a85c8edd3ec2aef

/-- The inverse of a field element that is not zero. -/
def inverse {curve : Curve} (element : curve.Field) : curve.Field :=
  Bits.multiple (· * ·) 1 element (curve.modulus - 2)

/-- A point in homogeneous coordinates: `x / z` and `y / z`, and neutral where `z` is zero. -/
structure Point (curve : Curve) where
  /-- Numerator of the first coordinate. -/
  x : curve.Field
  /-- Numerator of the second coordinate. -/
  y : curve.Field
  /-- Common denominator. -/
  z : curve.Field

namespace Point

variable {curve : Curve}

/-- The neutral point. -/
def zero : Point curve := ⟨0, 1, 0⟩

/-- The sum of two points. -/
def add (first second : Point curve) : Point curve :=
  let xx := first.x * second.x
  let yy := first.y * second.y
  let zz := first.z * second.z
  let xy := first.x * second.y + second.x * first.y
  let xz := first.x * second.z + second.x * first.z
  let yz := first.y * second.z + second.y * first.z
  let shift := 3 * (curve.b * zz - xz)
  let low := yy - shift
  let high := yy + shift
  let cross := 3 * (curve.b * xz - xx - 3 * zz)
  let slope := 3 * (xx - zz)
  ⟨xy * low - yz * cross, high * low + slope * cross, yz * high + xy * slope⟩

/-- A multiple of a point. -/
def multiple (count : Nat) (point : Point curve) : Point curve :=
  Bits.multiple add zero point count

/-- The generator. -/
def base : (curve : Curve) → Point curve
  | .p256 =>
    ⟨0x6b17d1f2e12c4247f8bce6e563a440f277037d812deb33a0f4a13945d898c296,
     0x4fe342e2fe1a7f9b8ee7eb4a7c0f9e162bce33576b315ececbb6406837bf51f5, 1⟩
  | .p384 =>
    ⟨0xaa87ca22be8b05378eb1c71ef320ad746e1d3b628ba79b9859f741e082542a385502f25dbf55296c3a545e3872760ab7,
     0x3617de4a96262c6f5d9e98bf9292dc29f8f41dbd289a147ce9da3113b5f0b8c00a60b1ce1d7e819d7a431d7c90ea0e5f,
     1⟩

/-- The first coordinate of a point that is not neutral. -/
def first? (point : Point curve) : Option curve.Field :=
  if point.z = 0 then none else some (point.x * inverse point.z)

/-- The field element that bytes stand for, if their number is small enough. -/
def coordinate? (curve : Curve) (bytes : List UInt8) : Option curve.Field :=
  if small : ofBigEndian bytes < curve.modulus then some ⟨ofBigEndian bytes, small⟩ else none

/-- The mark of a point that is written with both coordinates. -/
def mark : UInt8 := 4

/-- The point that bytes stand for, if it is on the curve. -/
def ofBytes? (curve : Curve) : List UInt8 → Option (Point curve)
  | [] => none
  | first :: coordinates =>
    if first = mark ∧ coordinates.length = 2 * curve.size then do
      let x ← coordinate? curve (coordinates.take curve.size)
      let y ← coordinate? curve (coordinates.drop curve.size)
      if y * y = x * x * x - 3 * x + curve.b then some ⟨x, y, 1⟩ else none
    else none

end Point

end Curve

end RoundKey
