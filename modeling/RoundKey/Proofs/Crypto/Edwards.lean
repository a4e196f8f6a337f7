import Mathlib.NumberTheory.LegendreSymbol.Basic
import Mathlib.Tactic.LinearCombination
import Mathlib.Tactic.FieldSimp
import Mathlib.Tactic.NormNum.Prime
import RoundKey.Crypto.Ed25519
import RoundKey.Proofs.Number.Residue

/-!
# Public keys are points

The number of field elements is prime, minus one is a square and the curve constant is not. So the
formula for sums has no exceptions on the curve: its denominators are never zero, and the sum of two
points of the curve is a point of the curve. All multiples of the generator are on the curve then,
and the bytes of a point of the curve are read as a point again. In particular the public key of
every seed is the bytes of a point.
-/
namespace RoundKey

/-- Extended coordinates of a point on the curve `y * y - x * x = 1 + d * x * x * y * y`. -/
structure OnEdwardsCurve {K : Type} [Field K] (d x y z t : K) : Prop where
  /-- The common denominator is not zero. -/
  z_ne_zero : z ≠ 0
  /-- The last coordinate is the product of the first two, over the denominator. -/
  product : x * y = z * t
  /-- The equation of the curve, times the square of the denominator. -/
  equation : y * y - x * x = z * z + d * (t * t)

namespace OnEdwardsCurve

variable {K : Type} [Field K] {d root : K} {x y z t x' y' z' t' : K}

/-- A square is a multiple of a square by a nonsquare only if that square is zero. -/
theorem eq_zero_of_square (nonsquare : ¬IsSquare d) {a b : K} (same : a * a = d * (b * b)) :
    b = 0 := by
  by_contra nonzero
  apply nonsquare
  refine ⟨a / b, ?_⟩
  field_simp
  linear_combination -same

/-- The denominators of a sum are not zero: otherwise the curve constant or zero would be a square
that it is not. -/
theorem denominator_ne_zero (two : (2 : K) ≠ 0) (isRoot : root * root = -1)
    (nonsquare : ¬IsSquare d) (first : OnEdwardsCurve d x y z t)
    (second : OnEdwardsCurve d x' y' z' t') {sign : K} (isSign : sign * sign = 1) :
    z * z' + sign * (d * t * t') ≠ 0 := by
  intro zero
  obtain ⟨nonzero, product, equation⟩ := first
  obtain ⟨nonzero', product', equation'⟩ := second
  have opposite : d * t * t' = -sign * z * z' := by
    linear_combination sign * zero - d * t * t' * isSign
  have nonzeroSign : sign ≠ 0 := left_ne_zero_of_mul_eq_one isSign
  have nonzeroProduct : d * t * t' ≠ 0 := by
    rw [opposite]
    exact mul_ne_zero (mul_ne_zero (neg_ne_zero.mpr nonzeroSign) nonzero) nonzero'
  have nonzeroT : t ≠ 0 := right_ne_zero_of_mul (left_ne_zero_of_mul nonzeroProduct)
  -- Each square root of minus one makes a factor of a square times the curve constant vanish.
  have factor (root : K) (isRoot : root * root = -1) : y' + root * x' = 0 := by
    have vanishes : t * (y' + root * x') = 0 := by
      have same : z' * (root * x - sign * y) * (z' * (root * x - sign * y)) =
          d * (t * (y' + root * x') * (t * (y' + root * x'))) := by
        grind
      exact eq_zero_of_square nonsquare same
    exact (mul_eq_zero.mp vanishes).resolve_left nonzeroT
  have plus := factor root isRoot
  have minus := factor (-root) (by rw [neg_mul_neg, isRoot])
  have zeroY : y' = 0 := by
    have doubled : 2 * y' = 0 := by linear_combination plus + minus
    exact (mul_eq_zero.mp doubled).resolve_left two
  have zeroT : t' = 0 := by
    have zeroProduct : z' * t' = 0 := by rw [← product', zeroY, mul_zero]
    exact (mul_eq_zero.mp zeroProduct).resolve_left nonzero'
  exact nonzeroProduct (by rw [zeroT, mul_zero])

/-- The equation of the curve for the numerators and denominators of a sum. -/
theorem sum_equation (first : OnEdwardsCurve d x y z t) (second : OnEdwardsCurve d x' y' z' t') :
    let f := x * y' + y * x'
    let i := y * y' + x * x'
    let g := z * z' - d * t * t'
    let h := z * z' + d * t * t'
    h * i * (h * i) - f * g * (f * g) = g * h * (g * h) + d * (f * i * (f * i)) := by
  intro f i g h
  let s := z * z'
  let m := d * t * t'
  have difference : i * i - f * f = (z * z + d * (t * t)) * (z' * z' + d * (t' * t')) := by
    rw [← first.equation, ← second.equation]
    ring
  have sum : i * i + f * f =
      (x * x + y * y) * (x' * x' + y' * y') + 4 * (z * t) * (z' * t') := by
    rw [← first.product, ← second.product]
    ring
  have product : f * i = z * t * (x' * x' + y' * y') + z' * t' * (x * x + y * y) := by
    rw [← first.product, ← second.product]
    ring
  have square {x y z t : K} (point : OnEdwardsCurve d x y z t) :
      (x * x + y * y) ^ 2 = (z * z + d * (t * t)) ^ 2 + 4 * (z * t) ^ 2 := by
    rw [← point.product, ← point.equation]
    ring
  calc
    h * i * (h * i) - f * g * (f * g)
      = (s ^ 2 + m ^ 2) * (i * i - f * f) + 2 * s * m * (i * i + f * f) := by ring
    _ = g * h * (g * h) +
        d * (z * t * (x' * x' + y' * y') + z' * t' * (x * x + y * y)) ^ 2 := by
      rw [difference, sum]
      linear_combination -d * (z * t) ^ 2 * square second - d * (z' * t') ^ 2 * square first
    _ = g * h * (g * h) + d * (f * i * (f * i)) := by
      rw [← product]
      ring

/-- The sum of two points of the curve is a point of the curve. -/
theorem add (two : (2 : K) ≠ 0) (isRoot : root * root = -1) (nonsquare : ¬IsSquare d)
    (first : OnEdwardsCurve d x y z t) (second : OnEdwardsCurve d x' y' z' t') :
    let a := (y - x) * (y' - x')
    let b := (y + x) * (y' + x')
    let c := 2 * d * t * t'
    let e := 2 * z * z'
    OnEdwardsCurve d ((b - a) * (e - c)) ((e + c) * (b + a)) ((e - c) * (e + c))
      ((b - a) * (b + a)) := by
  intro a b c e
  have minus := denominator_ne_zero two isRoot nonsquare first second
    (show (-1 : K) * -1 = 1 by ring)
  have plus := denominator_ne_zero two isRoot nonsquare first second (one_mul (1 : K))
  constructor
  · have difference : e - c = 2 * (z * z' + -1 * (d * t * t')) := by ring
    have sum : e + c = 2 * (z * z' + 1 * (d * t * t')) := by ring
    rw [difference, sum]
    exact mul_ne_zero (mul_ne_zero two minus) (mul_ne_zero two plus)
  · ring
  · linear_combination 16 * sum_equation first second

/-- The affine equation of the curve, solved for the square of the first coordinate. -/
theorem affine_equation (point : OnEdwardsCurve d x y z t) :
    (x * z⁻¹) ^ 2 * (d * (y * z⁻¹ * (y * z⁻¹)) + 1) = y * z⁻¹ * (y * z⁻¹) - 1 := by
  obtain ⟨nonzero, product, equation⟩ := point
  field_simp
  linear_combination -z ^ 2 * equation + d * (x * y + z * t) * product

end OnEdwardsCurve

namespace Edwards

/-- The small primes in the orders of the units of the field and of their large prime factors. -/
def smallFactors : List Nat :=
  [8574133, 1923133, 569003, 430751, 132049, 75707, 65147, 57467, 4153, 2437, 353, 223, 127, 107,
   47, 31, 19, 13, 7, 5, 3, 2]

/-- The number of elements and the large primes in these orders, each in front of its own. -/
def largeFactors : List Residue.Candidate :=
  [⟨fieldSize, 2,
    [74058212732561358302231226437062788676166966415465897661863160754340907, 65147, 3, 2, 2]⟩,
   ⟨74058212732561358302231226437062788676166966415465897661863160754340907, 2,
    [31757755568855353, 75445702479781427272750846543864801, 1923133, 132049, 57467, 353, 3, 2]⟩,
   ⟨75445702479781427272750846543864801, 7,
    [72106336199, 1919519569386763, 75707, 5, 5, 3, 3, 2, 2, 2, 2, 2]⟩,
   ⟨31757755568855353, 10, [430751, 4153, 223, 107, 31, 3, 2, 2, 2]⟩,
   ⟨1919519569386763, 2, [8574133, 127, 47, 47, 19, 7, 3, 2]⟩,
   ⟨72106336199, 7, [2773320623, 13, 2]⟩,
   ⟨2773320623, 5, [569003, 2437, 2]⟩]

/-- The field of the signature curve has a prime number of elements. -/
theorem prime_fieldSize : fieldSize.Prime := by
  have known : ∀ number ∈ smallFactors, number.Prime := by
    norm_num [smallFactors]
  have pass : Residue.AllPass smallFactors largeFactors := by decide +kernel
  exact pass.prime known fieldSize List.mem_cons_self

instance : Fact fieldSize.Prime := ⟨prime_fieldSize⟩

namespace Field

variable {first second : Edwards.Field}

/-- A field element as a residue. -/
def residue (element : Edwards.Field) : ZMod fieldSize := (element.val : ZMod fieldSize)

/-- The residue of a sum. -/
@[simp]
theorem residue_add : residue (first + second) = residue first + residue second :=
  Residue.ofFin_add

/-- The residue of a product. -/
@[simp]
theorem residue_mul : residue (first * second) = residue first * residue second :=
  Residue.ofFin_mul

/-- The residue of a difference. -/
@[simp]
theorem residue_sub : residue (first - second) = residue first - residue second :=
  Residue.ofFin_sub

/-- The residue of a number. -/
@[simp]
theorem residue_ofNat (number : Nat) : residue (Fin.ofNat fieldSize number) = number :=
  Residue.ofFin_ofNat number

/-- The residue of zero. -/
@[simp]
theorem residue_zero : residue 0 = 0 := Residue.ofFin_zero

/-- The residue of one. -/
@[simp]
theorem residue_one : residue 1 = 1 := Residue.ofFin_one

/-- The residue of two. -/
@[simp]
theorem residue_two : residue 2 = 2 := Residue.ofFin_two

/-- Field elements are equal exactly if their residues are. -/
@[simp]
theorem residue_inj : residue first = residue second ↔ first = second := Residue.ofFin_inj

/-- Only the residue of zero is zero. -/
@[simp]
theorem residue_eq_zero : residue first = 0 ↔ first = 0 := Residue.ofFin_eq_zero

/-- The residue of a power. -/
@[simp]
theorem residue_power (element : Edwards.Field) (exponent : Nat) :
    residue (power element exponent) = residue element ^ exponent :=
  Residue.ofFin_multiple element exponent

/-- The residue of an inverse. -/
@[simp]
theorem residue_inverse (element : Edwards.Field) :
    residue (inverse element) = (residue element)⁻¹ := by
  rw [inverse, residue_power, Residue.pow_sub_two_eq_inv (by decide)]

/-- Two is not zero. -/
theorem two_ne_zero : (2 : ZMod fieldSize) ≠ 0 := by
  rw [← residue_two, ne_eq, residue_eq_zero]
  decide +kernel

/-- The square of the root of minus one. -/
theorem residue_rootOfMinusOne : residue rootOfMinusOne * residue rootOfMinusOne = -1 := by
  have square : rootOfMinusOne * rootOfMinusOne = 0 - 1 := by decide +kernel
  rw [← residue_mul, square, residue_sub, residue_zero, residue_one, zero_sub]

/-- The curve constant is not a square. -/
theorem not_isSquare_d : ¬IsSquare (residue d) := by
  have nonzero : residue d ≠ 0 := by
    rw [ne_eq, residue_eq_zero]
    decide +kernel
  have power : power d (fieldSize / 2) ≠ 1 := by decide +kernel
  rw [ZMod.euler_criterion fieldSize nonzero, ← residue_power, ← residue_one, residue_inj]
  exact power

end Field

namespace Point

open Edwards.Field

/-- Whether a point is on the curve. -/
def IsOnCurve (point : Point) : Prop :=
  OnEdwardsCurve (residue d) (residue point.x) (residue point.y) (residue point.z)
    (residue point.t)

/-- A point is on the curve if its coordinates satisfy the equations. -/
theorem isOnCurve_of_equations {point : Point} (nonzero : point.z ≠ 0)
    (product : point.x * point.y = point.z * point.t)
    (equation : point.y * point.y - point.x * point.x =
      point.z * point.z + d * (point.t * point.t)) : point.IsOnCurve where
  z_ne_zero := residue_eq_zero.not.mpr nonzero
  product := by simpa using congrArg residue product
  equation := by simpa using congrArg residue equation

/-- The neutral point is on the curve. -/
theorem isOnCurve_zero : zero.IsOnCurve :=
  isOnCurve_of_equations (by decide +kernel) (by decide +kernel) (by decide +kernel)

/-- The generator is on the curve. -/
theorem isOnCurve_base : base.IsOnCurve :=
  isOnCurve_of_equations (by decide +kernel) (by decide +kernel) (by decide +kernel)

/-- The sum of points on the curve is on the curve. -/
theorem IsOnCurve.add {first second : Point} (one : first.IsOnCurve) (other : second.IsOnCurve) :
    (add first second).IsOnCurve := by
  have sum := OnEdwardsCurve.add two_ne_zero residue_rootOfMinusOne not_isSquare_d one other
  simpa only [IsOnCurve, Point.add, residue_add, residue_mul, residue_sub, residue_two] using sum

/-- The multiples of a point on the curve are on the curve. -/
theorem IsOnCurve.multiple {point : Point} (on : point.IsOnCurve) (count : Nat) :
    (multiple count point).IsOnCurve :=
  Bits.multiple_induction isOnCurve_zero on (fun _ _ => IsOnCurve.add) count

/-- A square root is found if there is one. -/
theorem isSome_squareRoot? {numerator denominator : Edwards.Field} {root : ZMod fieldSize}
    (isRoot : root ^ 2 * residue denominator = residue numerator) :
    (squareRoot? numerator denominator).isSome = true := by
  let cube := denominator * denominator * denominator
  let candidate := numerator * cube *
    (numerator * cube * cube * denominator).power ((fieldSize - 5) / 8)
  let unit := root * residue denominator ^ 4
  have halves : fieldSize / 2 = 2 + 4 * ((fieldSize - 5) / 8) := by decide
  -- The candidate is a root up to a power that is zero or a root of one.
  have square : residue (denominator * candidate * candidate) =
      residue numerator * unit ^ (fieldSize / 2) := by
    have power : residue ((numerator * cube * cube * denominator).power ((fieldSize - 5) / 8)) =
        (unit ^ 2) ^ ((fieldSize - 5) / 8) := by
      rw [residue_power]
      congr 1
      simp only [cube, unit, residue_mul, ← isRoot]
      ring
    have split : unit ^ (fieldSize / 2) =
        unit ^ 2 * (unit ^ 2) ^ ((fieldSize - 5) / 8) * (unit ^ 2) ^ ((fieldSize - 5) / 8) := by
      rw [halves]
      ring
    rw [split]
    simp only [candidate, residue_mul, power]
    simp only [cube, unit, residue_mul, ← isRoot]
    ring
  have found : denominator * candidate * candidate = numerator ∨
      denominator * candidate * candidate = 0 - numerator := by
    by_cases zero : unit = 0
    · left
      have nothing : residue numerator = 0 := by
        rw [← isRoot]
        rcases mul_eq_zero.mp zero with zero | zero
        · rw [zero]; ring
        · rw [pow_eq_zero_iff (by decide)] at zero
          rw [zero, mul_zero]
      rw [← residue_inj, square, nothing, zero_mul]
    · rcases ZMod.pow_div_two_eq_neg_one_or_one fieldSize zero with one | minusOne
      · left
        rw [← residue_inj, square, one, mul_one]
      · right
        rw [← residue_inj, square, minusOne, residue_sub, residue_zero]
        ring
  unfold squareRoot?
  dsimp only
  split
  · rfl
  · next other =>
    rw [if_pos (found.resolve_left other)]
    rfl

/-- The bytes of a point on the curve are read as a point. -/
theorem IsOnCurve.isSome_decompress? {point : Point} (on : point.IsOnCurve) :
    (decompress? point.compress).isSome = true := by
  let x := point.x * point.z.inverse
  let y := point.y * point.z.inverse
  have fits : fieldSize < Nat.pow 2 255 := by decide
  have small : y.val < Nat.pow 2 255 := Nat.lt_trans y.isLt fits
  have parity : x.val % 2 ≤ 1 := Nat.le_of_lt_succ (Nat.mod_lt _ (by decide))
  have bound : y.val + Nat.pow 2 255 * (x.val % 2) < Nat.pow 256 32 :=
    calc
      y.val + Nat.pow 2 255 * (x.val % 2) < Nat.pow 2 255 + Nat.pow 2 255 * 1 :=
        Nat.add_lt_add_of_lt_of_le small (Nat.mul_le_mul_left _ parity)
      _ = Nat.pow 256 32 := by decide
  have value : (compress point).toNat = y.val + Nat.pow 2 255 * (x.val % 2) :=
    ofLittleEndian_littleEndian bound
  have low : (compress point).toNat % Nat.pow 2 255 = y.val := by
    rw [value, Nat.add_mul_mod_self_left, Nat.mod_eq_of_lt small]
  have reads : Fin.ofNat fieldSize ((compress point).toNat % Nat.pow 2 255) = y := by
    rw [low]
    exact Fin.ext (Nat.mod_eq_of_lt y.isLt)
  have isRoot : residue x ^ 2 * residue (d * (y * y) + 1) = residue (y * y - 1) := by
    have equation := on.affine_equation
    rw [← residue_inverse] at equation
    simpa [x, y] using equation
  obtain ⟨root, found⟩ := Option.isSome_iff_exists.mp (isSome_squareRoot? isRoot)
  rw [decompress?, reads, found]
  rfl

end Point

end Edwards

/-- The public key of a seed is the bytes of a point. -/
theorem Ed25519.Seed.isSome_point?_publicKey (seed : Seed) :
    seed.publicKey.point?.isSome = true :=
  (Edwards.Point.isOnCurve_base.multiple seed.expand.1).isSome_decompress?

end RoundKey
