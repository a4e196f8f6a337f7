import RoundKey.Pairing.Point
import RoundKey.Proofs.Pairing.Extension

/-!
# Compressed points

In both fields of coordinates a root is found for every square, an element has at most one other
root of its square, and exactly one of the two is the larger. No point of either curve has the
second coordinate zero. So the first coordinate and one bit tell the point, and bytes are read as a
point exactly if the point is on the curve and the bytes are its compressed form.
-/
namespace RoundKey

/-- A byte string is the bytes of its number. -/
theorem bigEndian_ofBigEndian (bytes : List UInt8) :
    bigEndian bytes.length (ofBigEndian bytes) = bytes := by
  rw [bigEndian, ofBigEndian, ← List.length_reverse, littleEndian_ofLittleEndian,
    List.reverse_reverse]

namespace Pairing

open Residue Coordinate

/-- A field of coordinates whose operations are what they are called. -/
class LawfulCoordinate (F : Type) [Coordinate F] : Prop where
  /-- The number of a coordinate leaves room for the flags. -/
  toNat_lt (x : F) : toNat x < Point.flagWeight F
  /-- The flags have room in the bytes of a coordinate. -/
  width_pos : 0 < width F
  /-- Exactly the number of a coordinate is read as it. -/
  ofNat?_eq_some_iff {number : Nat} {x : F} : ofNat? number = some x ↔ toNat x = number
  /-- The square of zero. -/
  zero_mul_zero : (0 : F) * 0 = 0
  /-- An element and its opposite have one square. -/
  opposite_mul_opposite (x : F) : (0 - x) * (0 - x) = x * x
  /-- Only an element and its opposite have one square. -/
  eq_or_eq_opposite {x y : F} (same : x * x = y * y) : x = y ∨ x = 0 - y
  /-- A root that is found is a root. -/
  mul_self_of_squareRoot? {x root : F} (found : squareRoot? x = some root) : root * root = x
  /-- A root of a square is found. -/
  exists_squareRoot? (x : F) : ∃ root, squareRoot? (x * x) = some root
  /-- Of an element and its opposite exactly one is the larger. -/
  isLarge_opposite {x : F} (nonzero : x ≠ 0) : isLarge (0 - x) = !isLarge x
  /-- No point of the curve has the second coordinate zero. -/
  curve_ne_zero (x : F) : Point.curve x ≠ 0

instance : LawfulCoordinate Base where
  toNat_lt x := Nat.lt_trans x.isLt (by decide +kernel)
  width_pos := by decide
  ofNat?_eq_some_iff {number x} := by
    show (if h : number < modulus then some (⟨number, h⟩ : Base) else none) = some x ↔ _
    constructor
    · intro read
      split at read
      · cases read; rfl
      · contradiction
    · rintro rfl
      exact dif_pos x.isLt
  zero_mul_zero := by decide
  opposite_mul_opposite x := by
    rw [← ofFin_inj, ofFin_mul, ofFin_sub, ofFin_zero, ofFin_mul]
    ring
  eq_or_eq_opposite {x y} same := by
    rw [← ofFin_inj, ofFin_mul, ofFin_mul, mul_self_eq_mul_self_iff] at same
    rw [← ofFin_inj, ← ofFin_inj, ofFin_sub, ofFin_zero, zero_sub]
    exact same
  mul_self_of_squareRoot? := Base.mul_self_of_squareRoot?
  exists_squareRoot? x := Base.exists_squareRoot? ⟨ofFin x, ofFin_mul⟩
  isLarge_opposite := Base.isLarge_opposite
  curve_ne_zero x zero := by
    have cube : ofFin x ^ 3 = ofFin (0 - 4) := by
      have equation : ofFin (x * x * x + 4) = ofFin 0 := congrArg ofFin zero
      rw [ofFin_add, ofFin_mul, ofFin_mul, ofFin_zero] at equation
      rw [ofFin_sub, ofFin_zero]
      linear_combination equation
    exact Base.pow_three_ne (by decide +kernel) (by decide +kernel) _ cube

/-- A number of two digits determines its digits, and the first bounds it. -/
theorem two_digits {weight bound high low : Nat} (first : high < bound) (second : low < weight) :
    high * weight + low < bound * weight ∧ (high * weight + low) / weight = high ∧
      (high * weight + low) % weight = low := by
  have positive : 0 < weight := Nat.lt_of_le_of_lt (Nat.zero_le _) second
  refine ⟨?_, ?_, ?_⟩
  · calc
      high * weight + low < high * weight + weight := Nat.add_lt_add_left second _
      _ = (high + 1) * weight := (Nat.succ_mul _ _).symm
      _ ≤ bound * weight := Nat.mul_le_mul_right _ first
  · rw [Nat.mul_comm, Nat.mul_add_div positive, Nat.div_eq_of_lt second, Nat.add_zero]
  · rw [Nat.mul_comm, Nat.mul_add_mod, Nat.mod_eq_of_lt second]

/-- The number of a part of an element is below the weight of the other part. -/
theorem Base.val_lt (x : Base) : x.val < Nat.pow 2 384 :=
  Nat.lt_trans x.isLt (by decide +kernel)

/-- Two numbers in a row are read as the parts of an element exactly if they are their numbers. -/
theorem Extension.ofNat?_eq_some_iff {number : Nat} {x : Extension} :
    Extension.ofNat? number = some x ↔ x.im.val * Nat.pow 2 384 + x.re.val = number := by
  rw [Extension.ofNat?]
  constructor
  · intro read
    split at read
    · rw [← Option.some.inj read]
      dsimp only
      rw [Nat.div_add_mod']
    · contradiction
  · rintro rfl
    obtain ⟨-, high, low⟩ := two_digits x.im.isLt x.re.val_lt
    simp only [high, low, x.re.isLt, x.im.isLt, and_self, ↓reduceDIte]

instance : LawfulCoordinate Extension where
  toNat_lt x := by
    have small : x.im.val < Nat.pow 2 381 := Nat.lt_trans x.im.isLt (by decide +kernel)
    have whole : Nat.pow 2 381 * Nat.pow 2 384 = Point.flagWeight Extension := by decide +kernel
    rw [← whole]
    exact (two_digits small x.re.val_lt).1
  width_pos := by decide
  ofNat?_eq_some_iff := Extension.ofNat?_eq_some_iff
  zero_mul_zero := by decide +kernel
  opposite_mul_opposite x := by
    rw [← Extension.value_inj, Extension.value_mul, Extension.value_sub, Extension.value_zero,
      Extension.value_mul]
    ring
  eq_or_eq_opposite {x y} same := by
    rw [← Extension.value_inj, Extension.value_mul, Extension.value_mul,
      mul_self_eq_mul_self_iff] at same
    rw [← Extension.value_inj, ← Extension.value_inj, Extension.value_sub, Extension.value_zero,
      zero_sub]
    exact same
  mul_self_of_squareRoot? := Extension.mul_self_of_squareRoot?
  exists_squareRoot? x := Extension.exists_squareRoot? ⟨x.value, Extension.value_mul⟩
  isLarge_opposite := Extension.isLarge_opposite
  curve_ne_zero x zero := by
    have cube : x.value ^ 3 = -(Extension.mk 4 4).value := by
      have equation : Extension.value (x * x * x + ⟨4, 4⟩) = Extension.value 0 :=
        congrArg Extension.value zero
      rw [Extension.value_add, Extension.value_mul, Extension.value_mul,
        Extension.value_zero] at equation
      linear_combination equation
    have norms : ofFin x.norm ^ 3 = ofFin (Extension.mk 4 4).norm := by
      rw [Extension.ofFin_norm, ← map_pow, cube, QuadraticAlgebra.norm_neg, Extension.ofFin_norm]
    exact Base.pow_three_ne (by decide +kernel) (by decide +kernel) _ norms

namespace Point

section Form

variable {F : Type} [Coordinate F]

/-- The flags of a point. -/
def flags : Point F → Nat
  | infinity => 6
  | finite _ y => if isLarge y then 5 else 4

/-- The number under the flags of a point. -/
def first : Point F → Nat
  | infinity => 0
  | finite x _ => toNat x

/-- The flags of a point fill three bits. -/
theorem flags_lt (point : Point F) : point.flags < 8 := by
  unfold flags
  split
  · decide
  · split <;> decide

/-- The compressed form is the number of both. -/
theorem compress_eq (point : Point F) :
    point.compress = bigEndian (width F) (point.flags * flagWeight F + point.first) := by
  cases point <;> rfl

end Form

variable {F : Type} [Coordinate F] [LawfulCoordinate F]

/-- The number under the flags has room under them. -/
theorem first_lt (point : Point F) : point.first < flagWeight F := by
  cases point with
  | infinity => exact Nat.pow_pos (by decide)
  | finite x y => exact LawfulCoordinate.toNat_lt x

/-- The flags are the highest bits of the bytes. -/
theorem eight_mul_flagWeight : 8 * flagWeight F = Nat.pow 256 (width F) := by
  have split : 8 * width F = 8 * width F - 3 + 3 := by
    have := LawfulCoordinate.width_pos (F := F)
    omega
  show 8 * 2 ^ (8 * width F - 3) = (2 ^ 8) ^ width F
  rw [← Nat.pow_mul, split, Nat.pow_succ, Nat.pow_succ, Nat.pow_succ, Nat.add_sub_cancel]
  omega

/-- Bytes are the compressed form of a point exactly if their number has its two parts. -/
theorem compress_eq_iff {bytes : List UInt8} (length : bytes.length = width F)
    {point : Point F} :
    point.compress = bytes ↔
      ofBigEndian bytes / flagWeight F = point.flags ∧
        ofBigEndian bytes % flagWeight F = point.first := by
  obtain ⟨bound, high, low⟩ := two_digits point.flags_lt point.first_lt
  rw [eight_mul_flagWeight] at bound
  constructor
  · rintro rfl
    rw [compress_eq, ofBigEndian_bigEndian bound]
    exact ⟨high, low⟩
  · rintro ⟨isFlags, isFirst⟩
    rw [compress_eq, ← isFlags, ← isFirst, Nat.div_add_mod', ← length, bigEndian_ofBigEndian]

/-- The points of a first coordinate are found by whether the second is the larger of two. -/
theorem ofFirst?_eq_some_iff {x : F} {large : Bool} {point : Point F} :
    ofFirst? x large = some point ↔
      ∃ y, point = finite x y ∧ y * y = curve x ∧ isLarge y = large := by
  have nonzero {y : F} (on : y * y = curve x) : y ≠ 0 := by
    rintro rfl
    exact LawfulCoordinate.curve_ne_zero x (on.symm.trans LawfulCoordinate.zero_mul_zero)
  constructor
  · intro found
    rw [ofFirst?, Option.bind_eq_bind, Option.bind_eq_some_iff] at found
    obtain ⟨root, isRoot, same⟩ := found
    have isRoot := LawfulCoordinate.mul_self_of_squareRoot? isRoot
    refine ⟨_, (Option.some.inj same).symm, ?_⟩
    split
    · next isLarge => exact ⟨isRoot, isLarge⟩
    · next other =>
      rw [LawfulCoordinate.opposite_mul_opposite,
        LawfulCoordinate.isLarge_opposite (nonzero isRoot)]
      exact ⟨isRoot, by cases large <;> simpa using other⟩
  · rintro ⟨y, rfl, on, rfl⟩
    obtain ⟨root, found⟩ := LawfulCoordinate.exists_squareRoot? y
    have same := LawfulCoordinate.mul_self_of_squareRoot? found
    rw [ofFirst?, ← on, found, Option.bind_eq_bind, Option.bind_some]
    have unit := nonzero (same.trans on)
    rcases LawfulCoordinate.eq_or_eq_opposite same.symm with rfl | rfl
    · rw [if_pos rfl]
    · have other : isLarge root ≠ isLarge (0 - root) := by
        rw [LawfulCoordinate.isLarge_opposite unit]
        cases isLarge root <;> decide
      rw [if_neg other]

/-- The points of the number of a first coordinate. -/
theorem bind_ofFirst?_eq_some_iff {value : Nat} {large : Bool} {point : Point F} :
    ((ofNat? value : Option F).bind fun x => ofFirst? x large) = some point ↔
      ∃ x y, point = finite x y ∧ y * y = curve x ∧ isLarge y = large ∧ toNat x = value := by
  simp only [Option.bind_eq_some_iff, LawfulCoordinate.ofNat?_eq_some_iff, ofFirst?_eq_some_iff]
  constructor
  · rintro ⟨x, written, y, same, on, isLarge⟩
    exact ⟨x, y, same, on, isLarge, written⟩
  · rintro ⟨x, y, same, on, isLarge, written⟩
    exact ⟨x, written, y, same, on, isLarge⟩

variable [DecidableEq F]

/-- Decompression reads exactly the compressed forms of points of the curve, each as that point. -/
theorem decompress?_eq_some_iff {bytes : List UInt8} (length : bytes.length = width F)
    {point : Point F} :
    decompress? bytes = some point ↔ point.isOnCurve = true ∧ point.compress = bytes := by
  rw [compress_eq_iff length, decompress?]
  dsimp only [Option.bind_eq_bind]
  generalize ofBigEndian bytes / flagWeight F = high
  generalize ofBigEndian bytes % flagWeight F = low
  constructor
  · intro read
    split at read
    · obtain ⟨x, y, rfl, on, small, rfl⟩ := bind_ofFirst?_eq_some_iff.mp read
      exact ⟨beq_iff_eq.mpr on, by rw [flags, small]; rfl, rfl⟩
    · obtain ⟨x, y, rfl, on, large, rfl⟩ := bind_ofFirst?_eq_some_iff.mp read
      exact ⟨beq_iff_eq.mpr on, by rw [flags, large]; rfl, rfl⟩
    · obtain ⟨rfl, same⟩ := Option.ite_none_right_eq_some.mp read
      cases same
      exact ⟨rfl, rfl, rfl⟩
    · contradiction
  · rintro ⟨on, rfl, rfl⟩
    cases point with
    | infinity => rfl
    | finite x y =>
      have found := bind_ofFirst?_eq_some_iff.mpr ⟨x, y, rfl, beq_iff_eq.mp on, rfl, rfl⟩
      cases large : isLarge y with
      | false =>
        rw [large] at found
        rw [flags, large]
        exact found
      | true =>
        rw [large] at found
        rw [flags, large]
        exact found

end Point

end Pairing

end RoundKey
