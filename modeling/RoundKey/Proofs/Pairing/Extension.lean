import Mathlib.Algebra.QuadraticAlgebra.Basic
import Mathlib.Tactic.FieldSimp
import Mathlib.Tactic.LinearCombination
import RoundKey.Proofs.Pairing.Base

/-!
# Square roots and cubes in the extension

Minus one is no square in the prime field, so the extension by a root of it is a field. A square of
the extension has a norm that is the square of the norm of its root. So a root of the norm is found,
and it gives the square of the real part of a root. The norm of a cube is the cube of a norm.
-/
namespace RoundKey.Pairing

open Residue

/-- The field that the extension stands for. -/
abbrev ExtensionField := QuadraticAlgebra (ZMod modulus) (-1) 0

instance : Fact (∀ root : ZMod modulus, root ^ 2 ≠ -1 + 0 * root) where
  out root same := by
    apply not_isSquare_neg_one
    exact ⟨root, by linear_combination -same⟩

namespace Extension

variable {element first second root : Extension}

@[ext]
theorem ext (re : first.re = second.re) (im : first.im = second.im) : first = second := by
  cases first; cases second; cases re; cases im; rfl

/-- An element of the extension in the field that it stands for. -/
def value (element : Extension) : ExtensionField := ⟨ofFin element.re, ofFin element.im⟩

/-- Elements are equal exactly if their values are. -/
@[simp]
theorem value_inj : value first = value second ↔ first = second := by
  rw [value, value, QuadraticAlgebra.mk.injEq, ofFin_inj, ofFin_inj, Extension.ext_iff]

/-- The value of zero. -/
@[simp]
theorem value_zero : value 0 = 0 :=
  QuadraticAlgebra.ext ofFin_zero ofFin_zero

/-- The value of a sum. -/
@[simp]
theorem value_add : value (first + second) = value first + value second :=
  QuadraticAlgebra.ext ofFin_add ofFin_add

/-- The value of a difference. -/
@[simp]
theorem value_sub : value (first - second) = value first - value second :=
  QuadraticAlgebra.ext ofFin_sub ofFin_sub

/-- The value of a product. -/
@[simp]
theorem value_mul : value (first * second) = value first * value second := by
  apply QuadraticAlgebra.ext
  · show ofFin (first.re * second.re - first.im * second.im) = _
    rw [ofFin_sub, ofFin_mul, ofFin_mul, QuadraticAlgebra.re_mul, value, value]
    ring
  · show ofFin (first.re * second.im + first.im * second.re) = _
    rw [ofFin_add, ofFin_mul, ofFin_mul, QuadraticAlgebra.im_mul, value, value]
    ring

/-- The equations of the parts of a root. -/
theorem mul_self_eq_iff : root * root = element ↔
    ofFin root.re * ofFin root.re - ofFin root.im * ofFin root.im = ofFin element.re ∧
      ofFin root.re * ofFin root.im + ofFin root.im * ofFin root.re = ofFin element.im := by
  rw [← ofFin_mul, ← ofFin_mul, ← ofFin_sub, ofFin_inj, ← ofFin_mul, ← ofFin_mul, ← ofFin_add,
    ofFin_inj]
  exact Extension.ext_iff

/-- The norm in the prime field is the norm of the value. -/
theorem ofFin_norm (element : Extension) : ofFin element.norm = element.value.norm := by
  rw [norm, ofFin_add, ofFin_mul, ofFin_mul, QuadraticAlgebra.norm_def, value]
  ring

/-- A root that is found is a root. -/
theorem mul_self_of_squareRoot? (found : squareRoot? element = some root) :
    root * root = element := by
  rw [squareRoot?] at found
  split at found
  · next candidate _ =>
    rw [Option.ite_none_right_eq_some] at found
    obtain ⟨isRoot, same⟩ := found
    rw [← Option.some.inj same]
    exact isRoot
  · contradiction

section Root

variable {a b c length : ZMod modulus}

/-- A root of half the sum of the real part and a root of the norm is the real part of a root. -/
theorem root_of_half (nonzero : b ≠ 0) (isLength : length * length = a * a + b * b)
    (isHalf : c * c = (a + length) * 2⁻¹) :
    c * c - b * (2 * c)⁻¹ * (b * (2 * c)⁻¹) = a ∧
      c * (b * (2 * c)⁻¹) + b * (2 * c)⁻¹ * c = b := by
  have two := Base.two_ne_zero
  have doubled : 2 * (c * c) = a + length := by
    rw [isHalf]
    field_simp
  have unit : c ≠ 0 := by
    rintro rfl
    apply nonzero
    apply mul_self_eq_zero.mp
    linear_combination -isLength - (length - a) * doubled
  constructor
  · field_simp
    linear_combination (2 * c * c - a + length) * doubled + isLength
  · field_simp
    ring

end Root

/-- The residue of the inverse of two. -/
theorem ofFin_half : ofFin (Base.inverse 2) = 2⁻¹ := by
  rw [Base.ofFin_inverse, ofFin_two]

/-- The real part of a root is looked for with a root of the norm. -/
theorem realPart?_of_length {length : Base} (isLength : element.norm.squareRoot? = some length) :
    realPart? element = (Base.squareRoot? ((element.re + length) * Base.inverse 2)).or
      (Base.squareRoot? ((element.re - length) * Base.inverse 2)) := by
  rw [realPart?, isLength, Option.bind_eq_bind, Option.bind_some]
  extract_lets half
  split
  · next root isRoot => rw [isRoot, Option.some_or]
  · next missing => rw [missing, Option.none_or]

/-- The square of a real part that is found. -/
theorem mul_self_of_realPart? {part : Base} (found : realPart? element = some part) :
    ∃ length : ZMod modulus,
      length * length = ofFin element.re * ofFin element.re + ofFin element.im * ofFin element.im ∧
        ofFin part * ofFin part = (ofFin element.re + length) * 2⁻¹ := by
  cases isLength : element.norm.squareRoot? with
  | none =>
    rw [realPart?, isLength] at found
    contradiction
  | some length =>
    rw [realPart?_of_length isLength, Option.or_eq_some_iff] at found
    have isLength := congrArg ofFin (Base.mul_self_of_squareRoot? isLength)
    rw [norm, ofFin_add, ofFin_mul, ofFin_mul, ofFin_mul] at isLength
    rcases found with isRoot | ⟨-, isRoot⟩
    · have isRoot := congrArg ofFin (Base.mul_self_of_squareRoot? isRoot)
      rw [ofFin_mul, ofFin_mul, ofFin_add, ofFin_half] at isRoot
      exact ⟨ofFin length, isLength, isRoot⟩
    · have isRoot := congrArg ofFin (Base.mul_self_of_squareRoot? isRoot)
      rw [ofFin_mul, ofFin_mul, ofFin_sub, ofFin_half, sub_eq_add_neg] at isRoot
      exact ⟨-ofFin length, by rw [neg_mul_neg, isLength], isRoot⟩

/-- The real part of a root of a square is found. -/
theorem exists_realPart? (square : IsSquare element.value) :
    ∃ part, realPart? element = some part := by
  obtain ⟨⟨u, v⟩, same⟩ := square
  have two := Base.two_ne_zero
  have re : ofFin element.re = u * u - v * v := by
    have parts : ofFin element.re = u * u + -1 * v * v := congrArg QuadraticAlgebra.re same
    linear_combination parts
  have isNorm : ofFin element.norm = (u * u + v * v) * (u * u + v * v) := by
    rw [ofFin_norm, same, map_mul, QuadraticAlgebra.norm_def]
    ring
  obtain ⟨length, isLength⟩ := Base.exists_squareRoot? ⟨_, isNorm⟩
  have roots := congrArg ofFin (Base.mul_self_of_squareRoot? isLength)
  rw [ofFin_mul, isNorm, mul_self_eq_mul_self_iff] at roots
  rw [realPart?_of_length isLength]
  rcases roots with plus | minus
  · have half : ofFin ((element.re + length) * Base.inverse 2) = u * u := by
      rw [ofFin_mul, ofFin_add, ofFin_half, plus, re]
      field_simp
      ring
    obtain ⟨root, isRoot⟩ := Base.exists_squareRoot? ⟨_, half⟩
    exact ⟨root, Option.or_eq_some_iff.mpr (.inl isRoot)⟩
  · have half : ofFin ((element.re - length) * Base.inverse 2) = u * u := by
      rw [ofFin_mul, ofFin_sub, ofFin_half, minus, re]
      field_simp
      ring
    obtain ⟨root, isRoot⟩ := Base.exists_squareRoot? ⟨_, half⟩
    rw [isRoot]
    cases Base.squareRoot? ((element.re + length) * Base.inverse 2) with
    | none => exact ⟨root, rfl⟩
    | some other => exact ⟨other, rfl⟩

/-- If a square is real and no root of its real part is found, one of the opposite is found. -/
theorem exists_squareRoot?_opposite (real : ofFin element.im = 0)
    (missing : Base.squareRoot? element.re = none) (square : IsSquare element.value) :
    ∃ root, Base.squareRoot? (0 - element.re) = some root := by
  obtain ⟨⟨u, v⟩, same⟩ := square
  have re : ofFin element.re = u * u + -1 * v * v := congrArg QuadraticAlgebra.re same
  have im : ofFin element.im = u * v + v * u + 0 * v * v := congrArg QuadraticAlgebra.im same
  have product : 2 * (u * v) = 0 := by linear_combination real - im
  have opposite : ofFin (0 - element.re) = v * v := by
    rcases mul_eq_zero.mp ((mul_eq_zero.mp product).resolve_left Base.two_ne_zero) with rfl | rfl
    · rw [ofFin_sub, ofFin_zero, re]
      ring
    · have square : ofFin element.re = u * u := by
        rw [re]
        ring
      obtain ⟨root, isRoot⟩ := Base.exists_squareRoot? ⟨u, square⟩
      rw [isRoot] at missing
      contradiction
  exact Base.exists_squareRoot? ⟨v, opposite⟩

/-- A candidate for a root of a square is found, and it is a root. -/
theorem exists_candidate? (square : IsSquare element.value) :
    ∃ root, candidate? element = some root ∧ root * root = element := by
  rw [candidate?]
  split
  case isTrue real =>
    have im : ofFin element.im = 0 := by rw [real, ofFin_zero]
    split
    · next root isRoot =>
      have isRoot := congrArg ofFin (Base.mul_self_of_squareRoot? isRoot)
      rw [ofFin_mul] at isRoot
      refine ⟨_, rfl, mul_self_eq_iff.mpr ⟨?_, ?_⟩⟩
      · rw [ofFin_zero, isRoot, mul_zero, sub_zero]
      · rw [ofFin_zero, im, mul_zero, zero_mul, add_zero]
    · next missing =>
      obtain ⟨root, found⟩ := exists_squareRoot?_opposite im missing square
      have isRoot := congrArg ofFin (Base.mul_self_of_squareRoot? found)
      rw [ofFin_mul, ofFin_sub, ofFin_zero, zero_sub] at isRoot
      rw [found, Option.map_some]
      refine ⟨_, rfl, mul_self_eq_iff.mpr ⟨?_, ?_⟩⟩
      · rw [ofFin_zero, isRoot, mul_zero, zero_sub, neg_neg]
      · rw [ofFin_zero, im, mul_zero, zero_mul, add_zero]
  case isFalse imaginary =>
    obtain ⟨part, found⟩ := exists_realPart? square
    obtain ⟨length, isLength, isHalf⟩ := mul_self_of_realPart? found
    have nonzero : ofFin element.im ≠ 0 := ofFin_eq_zero.not.mpr imaginary
    rw [found, Option.map_some]
    refine ⟨_, rfl, mul_self_eq_iff.mpr ?_⟩
    rw [ofFin_mul, Base.ofFin_inverse, ofFin_mul, ofFin_two]
    exact root_of_half nonzero isLength isHalf

/-- A root of a square is found. -/
theorem exists_squareRoot? (square : IsSquare element.value) :
    ∃ root, squareRoot? element = some root := by
  obtain ⟨root, found, isRoot⟩ := exists_candidate? square
  rw [squareRoot?, found]
  exact ⟨root, if_pos isRoot⟩

/-- Of an element and its opposite exactly one is the larger. -/
theorem isLarge_opposite (nonzero : element ≠ 0) : isLarge (0 - element) = !isLarge element := by
  have im : (0 - element).im = 0 - element.im := rfl
  have re : (0 - element).re = 0 - element.re := rfl
  rw [isLarge, isLarge, im, re]
  by_cases real : element.im = 0
  · have nonzero : element.re ≠ 0 := fun zero => nonzero (Extension.ext zero real)
    rw [real, if_pos rfl, if_pos (Fin.sub_self ..)]
    exact Base.isLarge_opposite nonzero
  · have imaginary : 0 - element.im ≠ 0 := by
      rw [ne_eq, ← ofFin_eq_zero, ofFin_sub, ofFin_zero, zero_sub, neg_eq_zero, ofFin_eq_zero]
      exact real
    rw [if_neg real, if_neg imaginary]
    exact Base.isLarge_opposite real

end Extension

end RoundKey.Pairing
