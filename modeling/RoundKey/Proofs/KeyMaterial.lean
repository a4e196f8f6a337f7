import RoundKey.KeyMaterial
import RoundKey.Proofs.Pairing.Point

/-!
# Canonical key material

Bytes are read as key material exactly if they are its bytes. So no two byte strings stand for one
point of the subgroup, and every point of the subgroup is read back from its bytes. A fault says
whether it is the number of bytes that is wrong or the bytes themselves.
-/
namespace RoundKey.KeyMaterial

open Pairing

variable {F : Type} [Coordinate F] [DecidableEq F]

/-- Key material has the width of a coordinate. -/
@[simp]
theorem length_toBytes (material : KeyMaterial F) :
    material.toBytes.length = Coordinate.width F := by
  rw [toBytes, Point.compress_eq, length_bigEndian]

/-- Another number of bytes is reported. -/
theorem ofBytes_of_length_ne {bytes : List UInt8} (other : bytes.length ≠ Coordinate.width F) :
    (ofBytes bytes : Except KeyMaterialFault (KeyMaterial F)) =
      .error (.length (Coordinate.width F) bytes.length) := by
  rw [ofBytes, if_neg other]

/-- Of the right number of bytes nothing but their point is found wrong. -/
theorem eq_invalidPoint_of_ofBytes {bytes : List UInt8} {fault : KeyMaterialFault}
    (length : bytes.length = Coordinate.width F)
    (failed : (ofBytes bytes : Except KeyMaterialFault (KeyMaterial F)) = .error fault) :
    fault = .invalidPoint := by
  rw [ofBytes, if_pos length] at failed
  split at failed
  · cases failed; rfl
  · split at failed
    · contradiction
    · cases failed; rfl

/-- The point of key material is on the curve. -/
theorem isOnCurve (material : KeyMaterial F) : material.point.isOnCurve = true :=
  (Bool.and_eq_true_iff.mp material.isInSubgroup).1

variable [LawfulCoordinate F]

/-- Bytes are read as key material exactly if they are its bytes. -/
theorem ofBytes_eq_ok_iff {bytes : List UInt8} {material : KeyMaterial F} :
    ofBytes bytes = .ok material ↔ material.toBytes = bytes := by
  by_cases length : bytes.length = Coordinate.width F
  · rw [ofBytes, if_pos length]
    constructor
    · intro read
      split at read
      · contradiction
      · next point decompressed =>
        obtain ⟨-, same⟩ := (Point.decompress?_eq_some_iff length).mp decompressed
        split at read
        · cases read; exact same
        · contradiction
    · rintro same
      rw [(Point.decompress?_eq_some_iff length).mpr ⟨material.isOnCurve, same⟩]
      exact dif_pos material.isInSubgroup
  · rw [ofBytes_of_length_ne length]
    apply iff_of_false nofun
    rintro rfl
    exact length material.length_toBytes

/-- The byte form of the points of a subgroup is canonical. -/
structure IsCanonical (F : Type) [Coordinate F] [DecidableEq F] (width : Nat) : Prop where
  /-- Accepted bytes are those of what is read from them. -/
  toBytes_ofBytes : ∀ bytes (material : KeyMaterial F),
    ofBytes bytes = .ok material → material.toBytes = bytes
  /-- Every point of the subgroup is read back from its bytes. -/
  ofBytes_toBytes : ∀ (point : Point F) (inside : point.isInSubgroup = true),
    ofBytes (toBytes ⟨point, inside⟩) = .ok ⟨point, inside⟩
  /-- The point at infinity is one of them. -/
  infinity : (Point.infinity : Point F).isInSubgroup = true
  /-- No two byte strings are read as one point. -/
  injective : ∀ first second (material : KeyMaterial F),
    ofBytes first = .ok material → ofBytes second = .ok material → first = second
  /-- A byte string of another length is refused for its length. -/
  length_ne : ∀ bytes : List UInt8, bytes.length ≠ width →
    (ofBytes bytes : Except _ (KeyMaterial F)) = .error (.length width bytes.length)
  /-- Every other byte string that is refused stands for no point. -/
  invalidPoint : ∀ (bytes : List UInt8) (fault : KeyMaterialFault), bytes.length = width →
    (ofBytes bytes : Except _ (KeyMaterial F)) = .error fault → fault = .invalidPoint

/-- The byte form is canonical over every field of coordinates whose operations are what they are
called, if the point at infinity is in the subgroup. -/
theorem isCanonical (infinity : (Point.infinity : Point F).isInSubgroup = true) :
    IsCanonical F (Coordinate.width F) where
  toBytes_ofBytes _ _ := ofBytes_eq_ok_iff.mp
  ofBytes_toBytes _ _ := ofBytes_eq_ok_iff.mpr rfl
  infinity := infinity
  injective _ _ _ read read' :=
    (ofBytes_eq_ok_iff.mp read).symm.trans (ofBytes_eq_ok_iff.mp read')
  length_ne _ := ofBytes_of_length_ne
  invalidPoint _ _ := eq_invalidPoint_of_ofBytes

end RoundKey.KeyMaterial
