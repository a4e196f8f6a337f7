import RoundKey.Crypto.Edwards

/-!
# Key exchange on the Montgomery curve

A secret multiplies the first coordinate of a point of the curve with coefficient 486662, over
the field of the signature curve. The secret is clamped, the top bit of a public coordinate is
ignored, and no public key is refused.
-/
namespace RoundKey.Montgomery

open Edwards (Field)

/-- `BoxSecretKey` — a secret scalar, as the bytes it was drawn in. -/
structure Secret where
  /-- The 32 bytes drawn. -/
  octets : Octets 32
deriving DecidableEq

/-- `BoxPublicKey` — a public coordinate, as the bytes it was given in. -/
structure PublicKey where
  /-- The 32 bytes of the coordinate. -/
  octets : Octets 32
deriving DecidableEq

/-- Public coordinates are equal exactly if their bytes are. -/
@[simp]
theorem PublicKey.octets_inj {first second : PublicKey} :
    first.octets = second.octets ↔ first = second := by
  cases first; cases second; simp

/-- Two neighbouring multiples of a point, each as the fraction of its first coordinate. -/
structure Ladder where
  /-- Numerator of the lower multiple. -/
  x : Field
  /-- Denominator of the lower multiple. -/
  z : Field
  /-- Numerator of the upper multiple. -/
  upperX : Field
  /-- Denominator of the upper multiple. -/
  upperZ : Field

/-- Exchange the two multiples. -/
def Ladder.swap (ladder : Ladder) : Ladder :=
  ⟨ladder.upperX, ladder.upperZ, ladder.x, ladder.z⟩

/-- Double the lower multiple and add the two, for a point with this first coordinate. -/
def Ladder.double (base : Field) (ladder : Ladder) : Ladder :=
  let sum := ladder.x + ladder.z
  let sumSquared := sum * sum
  let difference := ladder.x - ladder.z
  let differenceSquared := difference * difference
  let gap := sumSquared - differenceSquared
  let left := (ladder.upperX - ladder.upperZ) * sum
  let right := (ladder.upperX + ladder.upperZ) * difference
  { x := sumSquared * differenceSquared
    z := gap * (sumSquared + 121665 * gap)
    upperX := (left + right) * (left + right)
    upperZ := base * ((left - right) * (left - right)) }

/-- One step of the ladder for one bit of the scalar. -/
def Ladder.step (base : Field) (ladder : Ladder) (bit : Bool) : Ladder :=
  if bit then (Ladder.double base ladder.swap).swap else Ladder.double base ladder

/-- The scalar of a secret: bits 0 to 2 and 255 cleared, bit 254 set. -/
def Secret.scalar (secret : Secret) : Nat :=
  secret.octets.toNat % Nat.pow 2 254 / 8 * 8 + Nat.pow 2 254

/-- The first coordinate of the multiple of a point by a scalar below `2 ^ 255`. -/
def multiple (scalar : Nat) (base : Field) : Field :=
  let ladder := (Bits.ofNat 255 scalar).foldl (Ladder.step base) ⟨1, 0, base, 1⟩
  ladder.x * ladder.z.inverse

/-- The coordinate that a secret and a public key agree on. -/
def agree (secret : Secret) (key : PublicKey) : Octets 32 :=
  let base : Field := Fin.ofNat Edwards.fieldSize (key.octets.toNat % Nat.pow 2 255)
  Octets.ofNat 32 (multiple secret.scalar base).val

/-- `BoxSecretKey::public_key` — the public key of a secret: the multiple of the point with
coordinate nine. -/
def Secret.publicKey (secret : Secret) : PublicKey :=
  ⟨Octets.ofNat 32 (multiple secret.scalar 9).val⟩

end RoundKey.Montgomery
