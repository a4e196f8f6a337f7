import RoundKey.Pairing.Point

/-!
# Key material

The identity key of a round is a point over the prime field, and its attestation a point over
the extension, each in the prime-order subgroup. Both travel in compressed form; a byte string
of the right length is accepted exactly if it is the form of such a point.
-/
namespace RoundKey

open Pairing

/-- `KeyMaterialError` — why bytes are no key material. -/
inductive KeyMaterialFault where
  /-- The number of bytes is wrong. -/
  | length (expected actual : Nat)
  /-- The bytes stand for no point of the subgroup. -/
  | invalidPoint
deriving DecidableEq, Repr

/-- The text of a key material fault. -/
def KeyMaterialFault.message : KeyMaterialFault → String
  | length expected actual =>
    "Expected " ++ toString expected ++ " bytes of key material, got " ++ toString actual ++ "!"
  | invalidPoint => "Key material is not a valid curve point!"

/-- A point of the subgroup. -/
structure KeyMaterial (F : Type) [Coordinate F] [DecidableEq F] where
  /-- The point. -/
  point : Point F
  /-- It is in the subgroup. -/
  isInSubgroup : point.isInSubgroup = true

/-- `IbePrivateKey` — the key of an identity for one round. -/
abbrev IdentityKey := KeyMaterial Base

/-- `IdentitySignature` — the attestation of a long-term key. -/
abbrev IdentitySignature := KeyMaterial Extension

namespace KeyMaterial

variable {F : Type} [Coordinate F] [DecidableEq F]

@[ext]
theorem ext {first second : KeyMaterial F} (same : first.point = second.point) :
    first = second := by
  cases first; cases second; cases same; rfl

instance : DecidableEq (KeyMaterial F) := fun first second =>
  decidable_of_iff (first.point = second.point) ⟨ext, fun same => same ▸ rfl⟩

/-- `IbePrivateKey::from_bytes`, `IdentitySignature::from_bytes` — the material that bytes stand
for. -/
def ofBytes (bytes : List UInt8) : Except KeyMaterialFault (KeyMaterial F) :=
  if bytes.length = Coordinate.width F then
    match Point.decompress? (F := F) bytes with
    | none => .error .invalidPoint
    | some point =>
      if h : point.isInSubgroup = true then .ok ⟨point, h⟩ else .error .invalidPoint
  else .error (.length (Coordinate.width F) bytes.length)

/-- `IbePrivateKey::to_bytes`, `IdentitySignature::to_bytes` — the bytes of the material. -/
def toBytes (material : KeyMaterial F) : List UInt8 := material.point.compress

end KeyMaterial

end RoundKey
