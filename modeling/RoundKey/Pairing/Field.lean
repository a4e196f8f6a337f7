import RoundKey.Bits

/-!
# The fields of the pairing curve

The prime field of 381 bits and its extension by a square root of minus one. The prime is three
modulo four, so a power gives square roots in the prime field, and the norm reduces square roots
in the extension to two square roots in the prime field. Every root is checked by squaring.
-/
namespace RoundKey.Pairing

/-- The number of elements of the prime field. -/
def modulus : Nat :=
  0x1a0111ea397fe69a4b1ba7b6434bacd764774b84f38512bf6730d2a0f6b0f6241eabfffeb153ffffb9feffffffffaaab

instance : @NeZero Nat Zero.ofOfNat0 modulus := ⟨by decide⟩

/-- The prime field. -/
abbrev Base := Fin modulus

namespace Base

/-- The power of a field element. -/
def power (base : Base) (exponent : Nat) : Base := Bits.multiple (· * ·) 1 base exponent

/-- The inverse of a field element that is not zero. -/
def inverse (element : Base) : Base := power element (modulus - 2)

/-- A square root of a field element, if it has one. -/
def squareRoot? (element : Base) : Option Base :=
  let root := power element ((modulus + 1) / 4)
  if root * root = element then some root else none

/-- Whether an element is larger than its opposite. -/
def isLarge (element : Base) : Bool := decide ((modulus - 1) / 2 < element.val)

end Base

/-- The quadratic extension: `re + im * i`, with `i * i = -1`. -/
structure Extension where
  /-- The part in the prime field. -/
  re : Base
  /-- The coefficient of `i`. -/
  im : Base
deriving DecidableEq

namespace Extension

instance : Zero Extension := ⟨⟨0, 0⟩⟩

instance : One Extension := ⟨⟨1, 0⟩⟩

instance : Add Extension := ⟨fun first second => ⟨first.re + second.re, first.im + second.im⟩⟩

instance : Sub Extension := ⟨fun first second => ⟨first.re - second.re, first.im - second.im⟩⟩

instance : Mul Extension :=
  ⟨fun first second =>
    ⟨first.re * second.re - first.im * second.im, first.re * second.im + first.im * second.re⟩⟩

/-- The product with the conjugate, in the prime field. -/
def norm (element : Extension) : Base := element.re * element.re + element.im * element.im

/-- The inverse of an element that is not zero. -/
def inverse (element : Extension) : Extension :=
  let scale := element.norm.inverse
  ⟨element.re * scale, (0 - element.im) * scale⟩

/-- A root of half the sum of the real part and a root of the norm, or of half their
difference. -/
def realPart? (element : Extension) : Option Base := do
  let length ← element.norm.squareRoot?
  let half := (2 : Base).inverse
  match ((element.re + length) * half).squareRoot? with
  | some root => some root
  | none => ((element.re - length) * half).squareRoot?

/-- A candidate for a square root. Without an imaginary part it is real or imaginary. -/
def candidate? (element : Extension) : Option Extension :=
  if element.im = 0 then
    match element.re.squareRoot? with
    | some root => some ⟨root, 0⟩
    | none => (0 - element.re).squareRoot?.map fun root => ⟨0, root⟩
  else
    element.realPart?.map fun root => ⟨root, element.im * (2 * root).inverse⟩

/-- A square root of an element, if it has one. -/
def squareRoot? (element : Extension) : Option Extension :=
  match element.candidate? with
  | some root => if root * root = element then some root else none
  | none => none

/-- Whether an element is larger than its opposite: by the imaginary part unless it is zero. -/
def isLarge (element : Extension) : Bool :=
  if element.im = 0 then element.re.isLarge else element.im.isLarge

end Extension

/-- A field of coordinates with its curve `y ^ 2 = x ^ 3 + b`. -/
class Coordinate (F : Type) extends Zero F, One F, Add F, Sub F, Mul F where
  /-- The constant of the curve equation. -/
  b : F
  /-- Bytes of a coordinate. -/
  width : Nat
  /-- The number written for a coordinate, below `2 ^ (8 * width - 3)`. -/
  toNat : F → Nat
  /-- The coordinate written as a number, refusing numbers that are not reduced. -/
  ofNat? : Nat → Option F
  /-- The inverse of an element that is not zero. -/
  inverse : F → F
  /-- A square root, if there is one. -/
  squareRoot? : F → Option F
  /-- Whether an element is larger than its opposite. -/
  isLarge : F → Bool

instance : Coordinate Base where
  zero := 0
  one := 1
  b := 4
  width := 48
  toNat element := element.val
  ofNat? value := if h : value < modulus then some ⟨value, h⟩ else none
  inverse := Base.inverse
  squareRoot? := Base.squareRoot?
  isLarge := Base.isLarge

/-- The imaginary part of an extension element is written in front of the real part. -/
def Extension.ofNat? (value : Nat) : Option Extension :=
  if h : value / Nat.pow 2 384 < modulus ∧ value % Nat.pow 2 384 < modulus then
    some ⟨⟨value % Nat.pow 2 384, h.2⟩, ⟨value / Nat.pow 2 384, h.1⟩⟩
  else none

instance : Coordinate Extension where
  b := ⟨4, 4⟩
  width := 96
  toNat element := element.im.val * Nat.pow 2 384 + element.re.val
  ofNat? := Extension.ofNat?
  inverse := Extension.inverse
  squareRoot? := Extension.squareRoot?
  isLarge := Extension.isLarge

end RoundKey.Pairing
