import Mathlib.FieldTheory.Finite.Basic
import Mathlib.NumberTheory.LucasPrimality
import Mathlib.Tactic.Ring
import RoundKey.Number.Residue
import RoundKey.Proofs.Bits

/-!
# Primes by powers of residues

The powers of residues are those of the ring of residues. So Lucas's test of a number can be
carried out with them: a number is prime if some base has the number less one as its order, which
the prime factors of that order decide. The numbers below a modulus stand for its residues, and
their sums, products and differences for those of the residues.
-/
namespace RoundKey.Residue

variable {modulus base : Nat} {factors : List Nat}

/-- The power of a residue is its power in the ring of residues. -/
theorem natCast_power (exponent : Nat) :
    (power modulus base exponent : ZMod modulus) = (base : ZMod modulus) ^ exponent := by
  have one : ((1 % modulus : Nat) : ZMod modulus) = 1 := by
    rw [ZMod.natCast_mod, Nat.cast_one]
  apply Bits.value_multiple one
  intro first second
  rw [ZMod.natCast_mod, Nat.cast_mul]

/-- A power is one in the ring of residues exactly if it is computed as one. -/
theorem pow_eq_one_iff (large : 1 < modulus) (exponent : Nat) :
    (base : ZMod modulus) ^ exponent = 1 ↔ power modulus base exponent % modulus = 1 := by
  rw [← natCast_power, ← Nat.cast_one, ZMod.natCast_eq_natCast_iff', Nat.mod_eq_of_lt large]

/-- The order of a base is the modulus less one, if the numbers in the list are all the prime
factors of that order, each as often as it divides it. -/
def HasFullOrder (modulus base : Nat) (factors : List Nat) : Prop :=
  1 < modulus ∧ factors.prod = modulus - 1 ∧
    power modulus base (modulus - 1) % modulus = 1 ∧
    ∀ factor ∈ factors, power modulus base ((modulus - 1) / factor) % modulus ≠ 1

instance : Decidable (HasFullOrder modulus base factors) :=
  inferInstanceAs (Decidable (_ ∧ _ ∧ _ ∧ _))

/-- Lucas's test: a number is prime if some base has the number less one as its order. -/
theorem HasFullOrder.prime (order : HasFullOrder modulus base factors)
    (primes : ∀ factor ∈ factors, factor.Prime) : modulus.Prime := by
  obtain ⟨large, product, whole, parts⟩ := order
  apply lucas_primality modulus (base : ZMod modulus) ((pow_eq_one_iff large _).mpr whole)
  intro divisor prime divides
  rw [← product] at divides
  have inside : divisor ∈ factors := by
    apply mem_list_primes_of_dvd_prod prime.prime _ divides
    exact fun factor known => (primes factor known).prime
  rw [ne_eq, pow_eq_one_iff large]
  exact parts divisor inside

/-- A number that is to be prime, with a base and the prime factors of the order of that base. -/
structure Candidate where
  /-- The number. -/
  number : Nat
  /-- The base. -/
  base : Nat
  /-- The prime factors of the number less one. -/
  factors : List Nat

/-- Each number in a list passes the test, with factors that are known primes or numbers behind it
in the list. -/
def AllPass (known : List Nat) : List Candidate → Prop
  | [] => True
  | candidate :: rest =>
    HasFullOrder candidate.number candidate.base candidate.factors ∧
      (∀ factor ∈ candidate.factors, factor ∈ known ∨ factor ∈ rest.map Candidate.number) ∧
      AllPass known rest

/-- Whether each number passes the test can be computed. -/
instance decidableAllPass (known : List Nat) :
    (candidates : List Candidate) → Decidable (AllPass known candidates)
  | [] => inferInstanceAs (Decidable True)
  | _ :: rest =>
    have := decidableAllPass known rest
    inferInstanceAs (Decidable (_ ∧ _ ∧ _))

/-- Numbers that pass the test one after another are prime. -/
theorem AllPass.prime {known : List Nat} (primes : ∀ number ∈ known, number.Prime)
    {candidates : List Candidate} (pass : AllPass known candidates) :
    ∀ number ∈ candidates.map Candidate.number, number.Prime := by
  induction candidates with
  | nil => simp
  | cons candidate rest ih =>
    obtain ⟨order, found, pass⟩ := pass
    rw [List.map_cons, List.forall_mem_cons]
    refine ⟨order.prime fun factor inside => ?_, ih pass⟩
    exact (found factor inside).elim (primes factor) (ih pass factor)

/-- The inverse of a residue modulo an odd prime is a power of it, and that of zero is zero. -/
theorem pow_sub_two_eq_inv [Fact modulus.Prime] (odd : 2 < modulus) (residue : ZMod modulus) :
    residue ^ (modulus - 2) = residue⁻¹ := by
  by_cases zero : residue = 0
  · rw [zero, inv_zero, zero_pow (by omega)]
  · have unit : residue ^ (modulus - 1) = 1 := ZMod.pow_card_sub_one_eq_one zero
    have split : modulus - 1 = modulus - 2 + 1 := by omega
    apply eq_inv_of_mul_eq_one_left
    rw [← pow_succ, ← split, unit]

section Reduced

variable {first second : Fin modulus}

/-- A number below a modulus as a residue. -/
def ofFin (element : Fin modulus) : ZMod modulus := (element.val : ZMod modulus)

/-- The residue of a sum. -/
@[simp]
theorem ofFin_add : ofFin (first + second) = ofFin first + ofFin second := by
  rw [ofFin, Fin.val_add, ZMod.natCast_mod, Nat.cast_add, ofFin, ofFin]

/-- The residue of a product. -/
@[simp]
theorem ofFin_mul : ofFin (first * second) = ofFin first * ofFin second := by
  rw [ofFin, Fin.val_mul, ZMod.natCast_mod, Nat.cast_mul, ofFin, ofFin]

/-- The residue of a difference. -/
@[simp]
theorem ofFin_sub : ofFin (first - second) = ofFin first - ofFin second := by
  have small : second.val ≤ modulus := Nat.le_of_lt second.isLt
  rw [ofFin, Fin.sub_def, ZMod.natCast_mod, Nat.cast_add, Nat.cast_sub small,
    ZMod.natCast_self, ofFin, ofFin]
  ring

/-- Numbers below a modulus are equal exactly if their residues are. -/
@[simp]
theorem ofFin_inj : ofFin first = ofFin second ↔ first = second := by
  rw [ofFin, ofFin, ZMod.natCast_eq_natCast_iff', Nat.mod_eq_of_lt first.isLt,
    Nat.mod_eq_of_lt second.isLt, Fin.ext_iff]

variable [NeZero modulus]

/-- The residue of a number. -/
@[simp]
theorem ofFin_ofNat (number : Nat) : ofFin (Fin.ofNat modulus number) = number :=
  ZMod.natCast_mod _ _

/-- The residue of zero. -/
@[simp]
theorem ofFin_zero : ofFin (0 : Fin modulus) = 0 :=
  (ofFin_ofNat 0).trans Nat.cast_zero

/-- Only the residue of zero is zero. -/
@[simp]
theorem ofFin_eq_zero : ofFin first = 0 ↔ first = 0 := by
  rw [← ofFin_zero, ofFin_inj]

/-- The residue of one. -/
@[simp]
theorem ofFin_one : ofFin (1 : Fin modulus) = 1 :=
  (ofFin_ofNat 1).trans Nat.cast_one

/-- The residue of two. -/
@[simp]
theorem ofFin_two : ofFin (2 : Fin modulus) = 2 := ofFin_ofNat 2

/-- The residue of a power that is computed by doubling. -/
theorem ofFin_multiple (element : Fin modulus) (exponent : Nat) :
    ofFin (Bits.multiple (· * ·) 1 element exponent) = ofFin element ^ exponent :=
  Bits.value_multiple ofFin_one (fun _ _ => ofFin_mul) exponent

end Reduced

end RoundKey.Residue
