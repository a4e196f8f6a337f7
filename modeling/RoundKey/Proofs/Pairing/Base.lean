import Mathlib.NumberTheory.LegendreSymbol.Basic
import Mathlib.Tactic.NormNum.Prime
import RoundKey.Pairing.Field
import RoundKey.Proofs.Number.Residue

/-!
# Square roots and cubes in the prime field

The number of elements is prime and three modulo four. So minus one is no square, every element or
its opposite is a square, and a power of a square is a root of it. An element and its opposite
differ in which is the larger. The number of elements less one is divisible by three, so a power
tells elements that are no cubes.
-/
namespace RoundKey.Pairing

/-- The small primes in the orders of the units of the prime field and of their large prime
factors. -/
def smallFactors : List Nat :=
  [1686913, 859267, 755057, 609743, 582767, 421987, 43591, 16447, 10177, 8101, 7577, 3373, 941, 467,
   409, 151, 113, 89, 53, 47, 43, 31, 23, 19, 17, 13, 11, 7, 5, 3, 2]

/-- The number of elements and the large primes in these orders, each in front of its own. -/
def largeFactors : List Residue.Candidate :=
  [⟨modulus, 2,
    [15778400344354997994418419698270088123916926905054652752758194827714659,
     2584487767265781317813, 52437899, 859267, 10177, 47, 23, 11, 3, 3, 2]⟩,
   ⟨15778400344354997994418419698270088123916926905054652752758194827714659, 2,
    [1125266252156850182658904441386709967, 92691255082156974996979, 475709467, 53, 3, 2]⟩,
   ⟨1125266252156850182658904441386709967, 5,
    [3819663927398918131021, 43670061551, 3373, 2]⟩,
   ⟨92691255082156974996979, 3, [64881703735777, 16447, 467, 31, 3, 2]⟩,
   ⟨3819663927398918131021, 6, [13090036741, 755057, 113, 19, 5, 3, 3, 2, 2]⟩,
   ⟨2584487767265781317813, 2, [7259797099061183477, 89, 2, 2]⟩,
   ⟨7259797099061183477, 2, [1928745244171409, 941, 2, 2]⟩,
   ⟨1928745244171409, 3, [9272813673901, 13, 2, 2, 2, 2]⟩,
   ⟨64881703735777, 5, [927093389, 3, 3, 3, 3, 3, 3, 3, 2, 2, 2, 2, 2]⟩,
   ⟨9272813673901, 2, [582767, 7577, 7, 5, 5, 3, 2, 2]⟩,
   ⟨43670061551, 7, [51376543, 17, 5, 5, 2]⟩,
   ⟨13090036741, 10, [421987, 47, 11, 5, 3, 2, 2]⟩,
   ⟨927093389, 3, [43591, 409, 13, 2, 2]⟩,
   ⟨475709467, 2, [1686913, 47, 3, 2]⟩,
   ⟨52437899, 2, [609743, 43, 2]⟩,
   ⟨51376543, 3, [8101, 151, 7, 3, 2]⟩]

/-- The prime field has a prime number of elements. -/
theorem prime_modulus : modulus.Prime := by
  have known : ∀ number ∈ smallFactors, number.Prime := by
    norm_num [smallFactors]
  have pass : Residue.AllPass smallFactors largeFactors := by decide +kernel
  exact pass.prime known modulus List.mem_cons_self

instance : Fact modulus.Prime := ⟨prime_modulus⟩

/-- Minus one is not a square. -/
theorem not_isSquare_neg_one : ¬IsSquare (-1 : ZMod modulus) := by
  rw [ZMod.exists_sq_eq_neg_one_iff, not_not]
  decide

namespace Base

open Residue

variable {element root : Base}

/-- The residue of a power. -/
@[simp]
theorem ofFin_power (element : Base) (exponent : Nat) :
    ofFin (power element exponent) = ofFin element ^ exponent :=
  ofFin_multiple element exponent

/-- The residue of an inverse. -/
@[simp]
theorem ofFin_inverse (element : Base) : ofFin (inverse element) = (ofFin element)⁻¹ := by
  rw [inverse, ofFin_power, pow_sub_two_eq_inv (by decide)]

/-- Two is not zero. -/
theorem two_ne_zero : (2 : ZMod modulus) ≠ 0 := by
  rw [← ofFin_two, ne_eq, ofFin_eq_zero]
  decide +kernel

/-- A root that is found is a root. -/
theorem mul_self_of_squareRoot? (found : squareRoot? element = some root) :
    root * root = element := by
  -- The power stays a variable, so that nothing evaluates it.
  generalize computed : power element ((modulus + 1) / 4) = candidate
  rw [squareRoot?, computed, Option.ite_none_right_eq_some] at found
  obtain ⟨isRoot, same⟩ := found
  rw [← Option.some.inj same]
  exact isRoot

/-- A root of a square is found. -/
theorem exists_squareRoot? (square : IsSquare (ofFin element)) :
    ∃ root, squareRoot? element = some root := by
  obtain ⟨root, same⟩ := square
  have exponents : 2 * ((modulus + 1) / 4 + (modulus + 1) / 4) = modulus + 1 := by decide
  have isRoot : power element ((modulus + 1) / 4) * power element ((modulus + 1) / 4) =
      element := by
    rw [← ofFin_inj, ofFin_mul, ofFin_power, ← pow_add, same, ← pow_two, ← pow_mul, exponents,
      pow_succ, ZMod.pow_card, pow_two]
  generalize computed : power element ((modulus + 1) / 4) = candidate at isRoot
  rw [squareRoot?, computed]
  exact ⟨candidate, if_pos isRoot⟩

/-- Of an element and its opposite exactly one is the larger. -/
theorem isLarge_opposite (nonzero : element ≠ 0) : isLarge (0 - element) = !isLarge element := by
  have positive : element.val ≠ 0 := fun zero => nonzero (Fin.ext zero)
  have opposite : (0 - element).val = modulus - element.val := by
    rw [Fin.sub_def]
    exact Nat.mod_eq_of_lt (by show modulus - element.val + 0 < modulus; omega)
  have odd : modulus % 2 = 1 := by decide
  have small := element.isLt
  rw [isLarge, isLarge, opposite, ← decide_not, decide_eq_decide]
  omega

/-- An element is no cube if its power by a third of the order of the units is not one. -/
theorem pow_three_ne (other : power element ((modulus - 1) / 3) ≠ 1) (nonzero : element ≠ 0)
    (root : ZMod modulus) : root ^ 3 ≠ ofFin element := by
  intro same
  have unit : root ≠ 0 := by
    rintro rfl
    rw [zero_pow (by decide)] at same
    exact nonzero (ofFin_eq_zero.mp same.symm)
  have thirds : 3 * ((modulus - 1) / 3) = modulus - 1 := by decide
  apply other
  rw [← ofFin_inj, ofFin_power, ← same, ← pow_mul, thirds, ZMod.pow_card_sub_one_eq_one unit,
    ofFin_one]

end Base

end RoundKey.Pairing
