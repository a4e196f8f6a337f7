import RoundKey.Bits
import RoundKey.Bytes

/-!
# The Edwards curve of the signature scheme

Points of the twisted Edwards curve over the field of `2 ^ 255 - 19` elements, in extended
coordinates, with the compressed form of a point: the bytes of `y` and the parity of `x` in
the top bit. Decompression takes every `y` modulo the field size and allows a set parity bit
over `x = 0`.
-/
namespace RoundKey.Edwards

/-- The number of field elements. -/
def fieldSize : Nat := Nat.pow 2 255 - 19

instance : @NeZero Nat Zero.ofOfNat0 fieldSize := ⟨by decide⟩

/-- Field elements. -/
abbrev Field := Fin fieldSize

/-- The power of a field element. -/
def Field.power (base : Field) (exponent : Nat) : Field :=
  Bits.multiple (· * ·) 1 base exponent

/-- The inverse of a field element that is not zero. -/
def Field.inverse (element : Field) : Field := Field.power element (fieldSize - 2)

/-- The curve constant `-121665 / 121666`. -/
def d : Field := 37095705934669439343138083508754565189542113879843219016388785533085940283555

/-- A square root of minus one. -/
def rootOfMinusOne : Field :=
  19681161376707505956807079304988542015446066515923890162744021073123829784752

/-- A point in extended coordinates: `x / z`, `y / z`, and `t = x * y / z`. -/
structure Point where
  /-- Numerator of the first coordinate. -/
  x : Field
  /-- Numerator of the second coordinate. -/
  y : Field
  /-- Common denominator. -/
  z : Field
  /-- The product of the coordinates, over the denominator. -/
  t : Field

namespace Point

/-- The neutral point. -/
def zero : Point := ⟨0, 1, 1, 0⟩

/-- The sum of two points. The formula holds for all pairs of points. -/
def add (first second : Point) : Point :=
  let a := (first.y - first.x) * (second.y - second.x)
  let b := (first.y + first.x) * (second.y + second.x)
  let c := 2 * d * first.t * second.t
  let e := 2 * first.z * second.z
  let f := b - a
  let g := e - c
  let h := e + c
  let i := b + a
  ⟨f * g, h * i, g * h, f * i⟩

/-- The opposite point. -/
def negate (point : Point) : Point := ⟨0 - point.x, point.y, point.z, 0 - point.t⟩

/-- A multiple of a point. -/
def multiple (count : Nat) (point : Point) : Point := Bits.multiple add zero point count

/-- Whether eight times the point is neutral. -/
def isSmallOrder (point : Point) : Bool :=
  let eightfold := multiple 8 point
  eightfold.x == 0 && eightfold.y == eightfold.z

/-- The 32 bytes of a point: `y`, and the parity of `x` in the top bit. -/
def compress (point : Point) : Octets 32 :=
  let inverse := point.z.inverse
  let x := point.x * inverse
  let y := point.y * inverse
  Octets.ofNat 32 (y.val + Nat.pow 2 255 * (x.val % 2))

/-- An `x` whose square is `numerator / denominator`. -/
def squareRoot? (numerator denominator : Field) : Option Field :=
  let cube := denominator * denominator * denominator
  let candidate := numerator * cube *
    (numerator * cube * cube * denominator).power ((fieldSize - 5) / 8)
  let square := denominator * candidate * candidate
  if square = numerator then some candidate
  else if square = 0 - numerator then some (candidate * rootOfMinusOne)
  else none

/-- The point that 32 bytes stand for, if there is one. -/
def decompress? (bytes : Octets 32) : Option Point := do
  let value := bytes.toNat
  let y : Field := Fin.ofNat fieldSize (value % Nat.pow 2 255)
  let ySquared := y * y
  let root ← squareRoot? (ySquared - 1) (d * ySquared + 1)
  let x := if root.val % 2 = value / Nat.pow 2 255 then root else 0 - root
  some ⟨x, y, 1, x * y⟩

/-- The generator of the prime-order subgroup. -/
def base : Point :=
  let x : Field := 15112221349535400772501151409588531511454012693041857206046113283949847762202
  let y : Field := 46316835694926478169428394003475163141307993866256225615783033603165251855960
  ⟨x, y, 1, x * y⟩

/-- The order of the generator. -/
def order : Nat := Nat.pow 2 252 + 27742317777372353535851937790883648493

end Point

end RoundKey.Edwards
