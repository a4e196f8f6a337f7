import Mathlib.AlgebraicGeometry.EllipticCurve.Affine.Point
import RoundKey.Crypto.Montgomery
import RoundKey.Proofs.Crypto.Edwards

/-!
# Both sides of a key exchange agree

The points of the curve are a group. A step of the ladder keeps two neighbouring multiples of a
point as fractions of their first coordinates, so the ladder ends with the first coordinate of the
multiple that the scalar says. Public keys are first coordinates of multiples of one point, and a
multiple of a multiple does not depend on their order.
-/
namespace RoundKey

open WeierstrassCurve.Affine

/-- The curve `y ^ 2 = x ^ 3 + a * x ^ 2 + x`. -/
abbrev montgomeryCurve {K : Type} [Field K] (a : K) : WeierstrassCurve.Affine K := ⟨0, a, 0, 1, 0⟩

/-- The points of this curve. -/
abbrev MontgomeryPoint {K : Type} [Field K] (a : K) : Type := (montgomeryCurve a).Point

namespace MontgomeryPoint

variable {K : Type} [Field K] {a x z upperX upperZ base : K} {point upper : MontgomeryPoint a}

/-- A fraction is the first coordinate of a point, with the denominator zero exactly at infinity. -/
def IsFraction (x z : K) : MontgomeryPoint a → Prop
  | .zero => x ≠ 0 ∧ z = 0
  | .some u _ _ => z ≠ 0 ∧ x = u * z

/-- The first coordinate of a point, and zero at infinity. -/
def first : MontgomeryPoint a → K
  | .zero => 0
  | .some u _ _ => u

/-- The equation of the curve. -/
theorem equation {u v : K} (on : (montgomeryCurve a).Nonsingular u v) :
    v ^ 2 = u ^ 3 + a * u ^ 2 + u := by
  have equation := (equation_iff (W := montgomeryCurve a) u v).mp on.1
  linear_combination equation

/-- Coefficients for which the curve has no singular point. -/
structure IsSmooth (a : K) : Prop where
  /-- Two is not zero. -/
  two : (2 : K) ≠ 0
  /-- One is not the first coordinate of a singular point. -/
  plus : a + 2 ≠ 0
  /-- Minus one is not the first coordinate of a singular point. -/
  minus : a - 2 ≠ 0

/-- Four is not zero. -/
theorem IsSmooth.four (smooth : IsSmooth a) : (4 : K) ≠ 0 := by
  have square : (4 : K) = 2 * 2 := by ring
  rw [square]
  exact mul_ne_zero smooth.two smooth.two

/-- The first coordinate of a point of order two is not a root of one. -/
theorem IsSmooth.mul_self_ne_one (smooth : IsSmooth a) {u : K}
    (on : (montgomeryCurve a).Nonsingular u 0) : u * u ≠ 1 := by
  intro root
  have opposite : a + 2 * u = 0 := by
    linear_combination -equation on - (u + a) * root
  rcases mul_self_eq_one_iff.mp root with rfl | rfl
  · exact smooth.plus (by linear_combination opposite)
  · exact smooth.minus (by linear_combination opposite)

/-- The first coordinates of the sum and the difference of points with different ones. -/
theorem sum_mul_difference {u v u' v' : K} (on : v ^ 2 = u ^ 3 + a * u ^ 2 + u)
    (on' : v' ^ 2 = u' ^ 3 + a * u' ^ 2 + u') (other : u - u' ≠ 0) :
    (((v - v') / (u - u')) ^ 2 - a - u - u') * (((v + v') / (u - u')) ^ 2 - a - u - u') *
        (u - u') ^ 2 = (u * u' - 1) ^ 2 := by
  have sum : v ^ 2 + v' ^ 2 - (a + u + u') * (u - u') ^ 2 =
      u + u' + 2 * a * u * u' + u ^ 2 * u' + u * u' ^ 2 := by
    linear_combination on + on'
  have product : v ^ 2 * v' ^ 2 = (u ^ 3 + a * u ^ 2 + u) * (u' ^ 3 + a * u' ^ 2 + u') := by
    rw [on, on']
  field_simp
  linear_combination
    (v ^ 2 + v' ^ 2 - (a + u + u') * (u - u') ^ 2 +
      (u + u' + 2 * a * u * u' + u ^ 2 * u' + u * u' ^ 2)) * sum - 4 * product

/-- A multiple of a numerator and a denominator is the same fraction. -/
theorem IsFraction.scale {factor : K} (nonzero : factor ≠ 0) (fraction : IsFraction x z point) :
    IsFraction (factor * x) (factor * z) point := by
  cases point with
  | zero =>
    obtain ⟨numerator, rfl⟩ := fraction
    exact ⟨mul_ne_zero nonzero numerator, mul_zero factor⟩
  | some u v on =>
    obtain ⟨denominator, rfl⟩ := fraction
    exact ⟨mul_ne_zero nonzero denominator, by ring⟩

/-- A point and its opposite have one first coordinate. -/
theorem IsFraction.neg (fraction : IsFraction x z point) : IsFraction x z (-point) := by
  cases point with
  | zero => exact fraction
  | some u v on => exact fraction

section Sums

variable [DecidableEq K]

/-- The first coordinate of the double of a point that is not of order two. -/
theorem exists_double (smooth : IsSmooth a) {u v : K} (on : (montgomeryCurve a).Nonsingular u v)
    (nonzero : v ≠ 0) :
    ∃ u' v' on', (Point.some u v on : MontgomeryPoint a) + Point.some u v on =
        Point.some u' v' on' ∧
      (u * u - 1) ^ 2 = u' * (4 * v ^ 2) := by
  have two := smooth.two
  have other : v ≠ negY (montgomeryCurve a) u v := by
    rw [negY]
    intro same
    apply mul_ne_zero two nonzero
    linear_combination same
  refine ⟨_, _, _, Point.add_self_of_Y_ne other, ?_⟩
  rw [slope_of_Y_ne rfl other, addX, negY]
  have split : v - (-v - 0 * u - 0) = 2 * v := by ring
  simp only [split]
  field_simp
  linear_combination 16 * (a + 2 * u) * equation on

/-- The double of a point as a fraction. -/
theorem IsFraction.double (smooth : IsSmooth a) (fraction : IsFraction x z point) :
    IsFraction ((x * x - z * z) ^ 2) (4 * x * z * (x * x + a * x * z + z * z)) (point + point) := by
  cases point with
  | zero =>
    obtain ⟨nonzero, rfl⟩ := fraction
    refine ⟨?_, by ring⟩
    rw [mul_zero, sub_zero]
    exact pow_ne_zero 2 (mul_ne_zero nonzero nonzero)
  | some u v on =>
    obtain ⟨nonzero, rfl⟩ := fraction
    have denominator : 4 * (u * z) * z * (u * z * (u * z) + a * (u * z) * z + z * z) =
        4 * z ^ 4 * v ^ 2 := by
      rw [equation on]
      ring
    have numerator : (u * z * (u * z) - z * z) ^ 2 = z ^ 4 * (u * u - 1) ^ 2 := by ring
    rw [denominator, numerator]
    by_cases vertical : v = 0
    · subst vertical
      rw [Point.add_self_of_Y_eq (by simp [negY])]
      refine ⟨?_, by ring⟩
      apply mul_ne_zero (pow_ne_zero 4 nonzero) (pow_ne_zero 2 _)
      exact sub_ne_zero.mpr (smooth.mul_self_ne_one on)
    · obtain ⟨u', v', on', sum, first⟩ := exists_double smooth on vertical
      rw [sum]
      refine ⟨?_, ?_⟩
      · exact mul_ne_zero (mul_ne_zero smooth.four (pow_ne_zero 4 nonzero))
          (pow_ne_zero 2 vertical)
      · linear_combination z ^ 4 * first

/-- Two points with different first coordinates have a sum with a first coordinate, which is known
from that of their difference. -/
theorem exists_sum {u v u' v' : K} (on : (montgomeryCurve a).Nonsingular u v)
    (on' : (montgomeryCurve a).Nonsingular u' v') (other : u ≠ u')
    (difference : IsFraction base 1
      ((Point.some u' v' on' : MontgomeryPoint a) - Point.some u v on)) :
    ∃ w t on'', (Point.some u v on : MontgomeryPoint a) + Point.some u' v' on' =
        Point.some w t on'' ∧
      (u * u' - 1) ^ 2 = w * (base * (u' - u) ^ 2) := by
  rw [sub_eq_add_neg, Point.neg_some, Point.add_of_X_ne (Ne.symm other)] at difference
  obtain ⟨-, rfl⟩ := difference
  refine ⟨_, _, _, Point.add_of_X_ne other, ?_⟩
  rw [← sum_mul_difference (equation on) (equation on') (sub_ne_zero.mpr other),
    slope_of_X_ne other, slope_of_X_ne (Ne.symm other), addX, addX, negY]
  have turned : (v' - (-v - 0 * u - 0)) / (u' - u) = -((v + v') / (u - u')) := by
    rw [← neg_sub u u', div_neg]
    ring
  simp only [turned]
  ring

/-- A point has a first coordinate that is no root of one if its double has one that is not
zero. -/
theorem mul_self_ne_one_of_double (smooth : IsSmooth a) (nonzero : base ≠ 0) {u v : K}
    {on : (montgomeryCurve a).Nonsingular u v}
    (first : IsFraction base 1 ((Point.some u v on : MontgomeryPoint a) + Point.some u v on)) :
    u * u ≠ 1 := by
  intro root
  have itself : IsFraction u 1 (Point.some u v on : MontgomeryPoint a) :=
    ⟨one_ne_zero, (mul_one u).symm⟩
  have double := itself.double smooth
  cases twice : (Point.some u v on : MontgomeryPoint a) + Point.some u v on with
  | zero =>
    rw [twice] at first
    exact one_ne_zero first.2
  | some w t on' =>
    rw [twice] at double first
    obtain ⟨-, rfl⟩ := first
    obtain ⟨finite, whole⟩ := double
    apply mul_ne_zero (left_ne_zero_of_mul nonzero) finite
    rw [← whole]
    linear_combination (u * u - 1) * root

/-- The sum of two points as a fraction, from the first coordinate of their difference. -/
theorem IsFraction.add (smooth : IsSmooth a) (nonzero : base ≠ 0)
    (fraction : IsFraction x z point) (fraction' : IsFraction upperX upperZ upper)
    (difference : IsFraction base 1 (upper - point)) :
    IsFraction ((upperX * x - upperZ * z) ^ 2) (base * (upperX * z - upperZ * x) ^ 2)
      (point + upper) := by
  cases point with
  | zero =>
    obtain ⟨numerator, rfl⟩ := fraction
    rw [← Point.zero_def, sub_zero] at difference
    rw [← Point.zero_def, zero_add]
    cases upper with
    | zero => exact absurd difference.2 one_ne_zero
    | some u v on =>
      obtain ⟨denominator, rfl⟩ := fraction'
      obtain ⟨-, rfl⟩ := difference
      rw [mul_zero, mul_zero, sub_zero, zero_sub]
      refine ⟨?_, by ring⟩
      have unit := neg_ne_zero.mpr (mul_ne_zero denominator numerator)
      exact mul_ne_zero nonzero (pow_ne_zero 2 unit)
  | some u v on =>
    obtain ⟨denominator, rfl⟩ := fraction
    cases upper with
    | zero =>
      obtain ⟨numerator, rfl⟩ := fraction'
      rw [← Point.zero_def, zero_sub, Point.neg_some] at difference
      obtain ⟨-, rfl⟩ := difference
      rw [← Point.zero_def, add_zero, zero_mul, zero_mul, sub_zero, sub_zero]
      refine ⟨?_, by ring⟩
      exact mul_ne_zero nonzero (pow_ne_zero 2 (mul_ne_zero numerator denominator))
    | some u' v' on' =>
      obtain ⟨denominator', rfl⟩ := fraction'
      have numerators : (u' * upperZ * (u * z) - upperZ * z) ^ 2 =
          (upperZ * z) ^ 2 * (u * u' - 1) ^ 2 := by ring
      have denominators : base * (u' * upperZ * z - upperZ * (u * z)) ^ 2 =
          (upperZ * z) ^ 2 * (base * (u' - u) ^ 2) := by ring
      have unit : (upperZ * z) ^ 2 ≠ 0 := pow_ne_zero 2 (mul_ne_zero denominator' denominator)
      rw [numerators, denominators]
      apply scale unit
      by_cases same : u = u'
      · subst same
        have alike : (Point.some u v on : MontgomeryPoint a) = Point.some u v' on' ∨
            (Point.some u v on : MontgomeryPoint a) = -Point.some u v' on' := Point.X_eq_iff.mp rfl
        rcases alike with equal | opposite
        · rw [equal, sub_self] at difference
          exact absurd difference.2 one_ne_zero
        · -- The difference is a double, and no root of one is doubled to a finite nonzero point.
          rw [opposite, neg_add_cancel]
          rw [opposite, sub_neg_eq_add] at difference
          have root := mul_self_ne_one_of_double smooth nonzero difference
          exact ⟨pow_ne_zero 2 (sub_ne_zero.mpr root), by ring⟩
      · obtain ⟨w, t, on'', sum, first⟩ := exists_sum on on' same difference
        rw [sum]
        refine ⟨?_, first⟩
        exact mul_ne_zero nonzero (pow_ne_zero 2 (sub_ne_zero.mpr (Ne.symm same)))

/-- The multiples of a point whose first coordinate is zero are that point and infinity. -/
theorem first_nsmul_of_first_eq_zero (zero : point.first = 0) (scalar : Nat) :
    (scalar • point).first = 0 := by
  have double : point + point = 0 := by
    cases point with
    | zero => exact add_zero _
    | some u v on =>
      have flat : v ^ 2 = 0 := by
        rw [equation on, show u = 0 from zero]
        ring
      rw [pow_eq_zero_iff two_ne_zero] at flat
      exact Point.add_self_of_Y_eq (by rw [negY, flat]; ring)
  have multiples : scalar • point = 0 ∨ scalar • point = point := by
    induction scalar with
    | zero => exact .inl (zero_nsmul point)
    | succ scalar ih =>
      rw [succ_nsmul]
      rcases ih with nothing | itself
      · rw [nothing, zero_add]
        exact .inr rfl
      · rw [itself]
        exact .inl double
  rcases multiples with nothing | itself
  · rw [nothing]
    rfl
  · rw [itself, zero]

end Sums

/-- A first coordinate that is not zero is a fraction. -/
theorem isFraction_first (nonzero : point.first ≠ 0) : IsFraction point.first 1 point := by
  cases point with
  | zero => exact absurd rfl nonzero
  | some u v on => exact ⟨one_ne_zero, (mul_one u).symm⟩

/-- A fraction divided out is the first coordinate of its point, zero at infinity. -/
theorem IsFraction.first_eq (fraction : IsFraction x z point) : x * z⁻¹ = point.first := by
  cases point with
  | zero =>
    obtain ⟨-, rfl⟩ := fraction
    rw [inv_zero, mul_zero]
    rfl
  | some u v on =>
    obtain ⟨denominator, rfl⟩ := fraction
    exact mul_inv_cancel_right₀ denominator u

end MontgomeryPoint

namespace Montgomery

open Edwards (Field fieldSize)
open Edwards.Field MontgomeryPoint

/-- The coefficient of the curve. -/
def coefficient : ZMod fieldSize := 486662

/-- The curve has no singular point. -/
theorem isSmooth_coefficient : IsSmooth coefficient := by
  have whole : coefficient = residue 486662 := (residue_ofNat 486662).symm
  refine ⟨two_ne_zero, ?_, ?_⟩
  · rw [whole, ← residue_two, ← residue_add, ne_eq, residue_eq_zero]
    decide +kernel
  · rw [whole, ← residue_two, ← residue_sub, ne_eq, residue_eq_zero]
    decide +kernel

/-- A ladder stands at a count: it holds the multiple of a point by the count and the next one. -/
structure Ladder.IsAt (ladder : Ladder) (point : MontgomeryPoint coefficient) (count : Nat) :
    Prop where
  /-- The lower multiple is that by the count. -/
  lower : IsFraction (residue ladder.x) (residue ladder.z) (count • point)
  /-- The upper multiple is the next. -/
  upper : IsFraction (residue ladder.upperX) (residue ladder.upperZ) ((count + 1) • point)

variable {base : Field} {ladder : Ladder} {point lower upper : MontgomeryPoint coefficient}

/-- Doubling a ladder doubles its lower point and adds its points, if the base is the first
coordinate of their difference. -/
theorem Ladder.isFraction_double (ladder : Ladder) (nonzero : residue base ≠ 0)
    (isLower : IsFraction (residue ladder.x) (residue ladder.z) lower)
    (isUpper : IsFraction (residue ladder.upperX) (residue ladder.upperZ) upper)
    (difference : IsFraction (residue base) 1 (upper - lower)) :
    IsFraction (residue (double base ladder).x) (residue (double base ladder).z) (lower + lower) ∧
      IsFraction (residue (double base ladder).upperX) (residue (double base ladder).upperZ)
        (lower + upper) := by
  have smooth := isSmooth_coefficient
  have quarter : residue 121665 = 121665 := residue_ofNat 121665
  constructor
  · convert IsFraction.double smooth isLower using 1
    · simp only [double, residue_add, residue_sub, residue_mul]
      ring
    · simp only [double, residue_add, residue_sub, residue_mul, quarter, coefficient]
      ring
  · convert IsFraction.scale smooth.four
      (IsFraction.add smooth nonzero isLower isUpper difference) using 1
    · simp only [double, residue_add, residue_sub, residue_mul]
      ring
    · simp only [double, residue_add, residue_sub, residue_mul]
      ring

/-- A step of the ladder takes one bit into the count. -/
theorem Ladder.IsAt.step {count : Nat} (nonzero : residue base ≠ 0)
    (isBase : IsFraction (residue base) 1 point) (stands : ladder.IsAt point count) (bit : Bool) :
    (step base ladder bit).IsAt point (2 * count + bit.toNat) := by
  obtain ⟨lower, upper⟩ := stands
  have next : (count + 1) • point - count • point = point := by
    rw [succ_nsmul, add_sub_cancel_left]
  cases bit with
  | false =>
    obtain ⟨twice, sum⟩ := isFraction_double ladder nonzero lower upper
      (by rw [next]; exact isBase)
    have even : (2 * count) • point = count • point + count • point := by
      rw [← add_nsmul, Nat.two_mul]
    have odd : (2 * count + 1) • point = count • point + (count + 1) • point := by
      rw [← add_nsmul, ← Nat.add_assoc, Nat.two_mul]
    exact ⟨even ▸ twice, odd ▸ sum⟩
  | true =>
    have opposite : count • point - (count + 1) • point = -point := by
      rw [← neg_sub, next]
    obtain ⟨twice, sum⟩ := isFraction_double ladder.swap nonzero upper lower
      (by rw [opposite]; exact isBase.neg)
    have odd : (2 * count + 1) • point = (count + 1) • point + count • point := by
      rw [← add_nsmul]
      congr 1
      omega
    have even : (2 * count + 1 + 1) • point = (count + 1) • point + (count + 1) • point := by
      rw [← add_nsmul]
      congr 1
      omega
    exact ⟨odd ▸ sum, even ▸ twice⟩

/-- A ladder takes all bits of a number into the count. -/
theorem Ladder.IsAt.foldl (nonzero : residue base ≠ 0) (isBase : IsFraction (residue base) 1 point)
    (bits : List Bool) {count : Nat} (stands : ladder.IsAt point count) :
    (bits.foldl (Ladder.step base) ladder).IsAt point
      (bits.foldl (fun count bit => 2 * count + bit.toNat) count) := by
  induction bits generalizing ladder count with
  | nil => exact stands
  | cons bit bits ih => exact ih (stands.step nonzero isBase bit)

/-- The multiple of a first coordinate is the first coordinate of the multiple. -/
theorem residue_multiple {scalar : Nat} (small : scalar < Nat.pow 2 255)
    (nonzero : residue base ≠ 0) (isBase : IsFraction (residue base) 1 point) :
    residue (multiple scalar base) = first (scalar • point) := by
  have start : Ladder.IsAt ⟨1, 0, base, 1⟩ point 0 := by
    refine ⟨?_, ?_⟩
    · rw [residue_one, residue_zero, zero_nsmul]
      exact ⟨one_ne_zero, rfl⟩
    · rw [residue_one, zero_add, one_nsmul]
      exact isBase
  have count : Bits.toNat (Bits.ofNat 255 scalar) = scalar := by
    rw [Bits.toNat_ofNat, Nat.mod_eq_of_lt small]
  have whole := (start.foldl nonzero isBase (Bits.ofNat 255 scalar)).lower.first_eq
  rw [multiple, residue_mul, residue_inverse, whole]
  exact congrArg (fun count => first (count • point)) count

/-- Both fractions of a ladder have a numerator or a denominator that is zero. -/
structure Ladder.Vanishes (ladder : Ladder) : Prop where
  /-- The lower fraction. -/
  lower : residue ladder.x * residue ladder.z = 0
  /-- The upper fraction. -/
  upper : residue ladder.upperX * residue ladder.upperZ = 0

/-- Over the base zero both fractions vanish from step to step. -/
theorem Ladder.Vanishes.step (zero : residue base = 0) (vanishes : ladder.Vanishes) (bit : Bool) :
    (step base ladder bit).Vanishes := by
  have doubled (ladder : Ladder) (lower : residue ladder.x * residue ladder.z = 0) :
      (double base ladder).Vanishes := by
    constructor
    · simp only [double, residue_add, residue_sub, residue_mul]
      linear_combination 4 * (residue ladder.x + residue ladder.z) ^ 2 *
        (residue ladder.x - residue ladder.z) ^ 2 * ((residue ladder.x + residue ladder.z) ^ 2 +
          residue 121665 * (4 * residue ladder.x * residue ladder.z)) * lower
    · simp only [double, residue_mul, zero, zero_mul, mul_zero]
  cases bit with
  | false => exact doubled ladder vanishes.lower
  | true =>
    obtain ⟨lower, upper⟩ := doubled ladder.swap vanishes.upper
    exact ⟨upper, lower⟩

/-- The multiple of zero is zero. -/
theorem residue_multiple_of_zero (scalar : Nat) (zero : residue base = 0) :
    residue (multiple scalar base) = 0 := by
  have steps (bits : List Bool) (ladder : Ladder) (start : ladder.Vanishes) :
      (bits.foldl (Ladder.step base) ladder).Vanishes := by
    induction bits generalizing ladder with
    | nil => exact start
    | cons bit bits ih => exact ih _ (start.step zero bit)
  have start : Ladder.Vanishes ⟨1, 0, base, 1⟩ :=
    ⟨by rw [residue_zero, mul_zero], by rw [zero, zero_mul]⟩
  rw [multiple, residue_mul, residue_inverse]
  rcases mul_eq_zero.mp (steps (Bits.ofNat 255 scalar) _ start).lower with zero | zero
  · rw [zero, zero_mul]
  · rw [zero, inv_zero, mul_zero]

/-- The second coordinate of the point whose multiples are public keys. -/
def generatorY : Field :=
  14781619447589544791020593568409986887264606134616475288964881837755586237401

/-- It is a point of the curve. -/
theorem nonsingular_generator :
    (montgomeryCurve coefficient).Nonsingular (residue 9) (residue generatorY) := by
  have equation : generatorY * generatorY = 9 * 9 * 9 + 486662 * (9 * 9) + 9 := by decide +kernel
  have other : generatorY ≠ 0 := by decide +kernel
  have whole : coefficient = residue 486662 := (residue_ofNat 486662).symm
  rw [nonsingular_iff, equation_iff]
  refine ⟨?_, .inr ?_⟩
  · have same := congrArg residue equation
    simp only [residue_add, residue_mul, ← whole] at same
    linear_combination same
  · intro same
    have twice : 2 * residue generatorY = 0 := by linear_combination same
    exact other (residue_eq_zero.mp ((mul_eq_zero.mp twice).resolve_left two_ne_zero))

/-- The point whose multiples are public keys. -/
def generator : MontgomeryPoint coefficient := .some _ _ nonsingular_generator

/-- The multiple of a multiple of nine. -/
theorem residue_multiple_multiple {scalar scalar' : Nat} (small : scalar < Nat.pow 2 255)
    (small' : scalar' < Nat.pow 2 255) :
    residue (multiple scalar (multiple scalar' 9)) = (scalar • scalar' • generator).first := by
  have nine : residue 9 ≠ 0 := by
    rw [ne_eq, residue_eq_zero]
    decide
  have inner : residue (multiple scalar' 9) = (scalar' • generator).first :=
    residue_multiple small' nine ⟨one_ne_zero, (mul_one _).symm⟩
  by_cases zero : (scalar' • generator).first = 0
  · rw [residue_multiple_of_zero scalar (inner.trans zero), first_nsmul_of_first_eq_zero zero]
  · rw [← inner] at zero
    apply residue_multiple small zero
    rw [inner] at zero ⊢
    exact isFraction_first zero

/-- The scalar of a secret is below the highest power of two. -/
theorem Secret.scalar_lt (secret : Secret) : secret.scalar < Nat.pow 2 255 := by
  have low : secret.octets.toNat % Nat.pow 2 254 < Nat.pow 2 254 := Nat.mod_lt _ (by decide)
  have double : Nat.pow 2 255 = Nat.pow 2 254 + Nat.pow 2 254 := by decide
  rw [scalar, double]
  omega

/-- What a secret agrees on with a public key is a multiple of a multiple. -/
theorem agree_publicKey (secret other : Secret) :
    agree secret other.publicKey =
      Octets.ofNat 32 (multiple secret.scalar (multiple other.scalar 9)).val := by
  have small : (multiple other.scalar 9).val < Nat.pow 2 255 :=
    Nat.lt_trans (multiple other.scalar 9).isLt (by decide)
  have read : other.publicKey.octets.toNat = (multiple other.scalar 9).val :=
    ofLittleEndian_littleEndian (Nat.lt_trans small (by decide))
  have same : Fin.ofNat fieldSize (multiple other.scalar 9).val = multiple other.scalar 9 :=
    Fin.ext (Nat.mod_eq_of_lt (multiple other.scalar 9).isLt)
  rw [agree, read, Nat.mod_eq_of_lt small, same]

/-- Both sides of a key exchange agree. -/
theorem agree_comm (first second : Secret) :
    agree first second.publicKey = agree second first.publicKey := by
  have same : multiple first.scalar (multiple second.scalar 9) =
      multiple second.scalar (multiple first.scalar 9) := by
    rw [← residue_inj, residue_multiple_multiple first.scalar_lt second.scalar_lt,
      residue_multiple_multiple second.scalar_lt first.scalar_lt, smul_comm]
  rw [agree_publicKey, agree_publicKey, same]

end Montgomery

end RoundKey
