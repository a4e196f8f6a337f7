import Mathlib.Algebra.Group.Defs
import RoundKey.Bits

/-!
# Bits and multiples

Bits determine their number and a number its bits. Doubling and adding along the bits of a count
stays inside whatever is closed under addition, and where addition is a product of values, it gives
the power that the count says.
-/
namespace RoundKey.Bits

/-- The first bits of a list weigh more than all later ones. -/
theorem toNat_append (first second : List Bool) :
    toNat (first ++ second) = toNat first * Nat.pow 2 second.length + toNat second := by
  have shifted (bits : List Bool) (value : Nat) :
      bits.foldl (fun value bit => 2 * value + bit.toNat) value =
        value * 2 ^ bits.length + toNat bits := by
    induction bits generalizing value with
    | nil => simp [toNat]
    | cons bit bits ih =>
      simp only [toNat, List.foldl_cons, List.length_cons, ih (2 * value + bit.toNat),
        ih (2 * 0 + bit.toNat), Nat.pow_succ, Nat.add_mul]
      rw [Nat.mul_comm 2 value, Nat.mul_assoc, Nat.mul_comm 2]
      omega
  rw [toNat, List.foldl_append, shifted]
  rfl

/-- So many bits give a number below that power of two. -/
theorem toNat_lt (bits : List Bool) : toNat bits < Nat.pow 2 bits.length := by
  induction bits with
  | nil => decide
  | cons bit bits ih =>
    have split : toNat ([bit] ++ bits) = toNat [bit] * 2 ^ bits.length + toNat bits :=
      toNat_append [bit] bits
    have later : toNat bits < 2 ^ bits.length := ih
    have low : toNat [bit] ≤ 1 := by cases bit <;> decide
    have high := Nat.mul_le_mul_right (2 ^ bits.length) low
    show toNat ([bit] ++ bits) < 2 ^ (bits.length + 1)
    rw [Nat.pow_succ, split]
    omega

/-- The number of the low bits of a number is the number without its higher bits. -/
theorem toNat_ofNat (width value : Nat) :
    toNat (ofNat width value) = value % Nat.pow 2 width := by
  induction width with
  | zero => exact (Nat.mod_one value).symm
  | succ width ih =>
    have split := toNat_append [value.testBit width] (ofNat width value)
    rw [List.singleton_append, ih, length_ofNat] at split
    have bit : toNat [value.testBit width] = value / Nat.pow 2 width % 2 := by
      simp [toNat, Nat.toNat_testBit]
    have whole : value % 2 ^ (width + 1) =
        value % 2 ^ width + 2 ^ width * (value / 2 ^ width % 2) := Nat.mod_pow_succ
    rw [ofNat, split, bit, Nat.mul_comm, Nat.add_comm]
    exact whole.symm

/-- The bits of the number of some bits are those bits. -/
theorem ofNat_toNat (bits : List Bool) : ofNat bits.length (toNat bits) = bits := by
  have read (width value value' : Nat) (same : value % 2 ^ width = value' % 2 ^ width) :
      ofNat width value = ofNat width value' := by
    induction width with
    | zero => rfl
    | succ width ih =>
      have bit : value.testBit width = value'.testBit width := by
        have bits := congrArg (Nat.testBit · width) same
        simpa [Nat.testBit_mod_two_pow] using bits
      have lower : value % 2 ^ width = value' % 2 ^ width := by
        have reduced := congrArg (· % 2 ^ width) same
        simpa [Nat.pow_succ, Nat.mod_mul_right_mod] using reduced
      rw [ofNat, ofNat, bit, ih lower]
  induction bits with
  | nil => rfl
  | cons bit bits ih =>
    have small := toNat_lt bits
    have split : toNat (bit :: bits) = 2 ^ bits.length * bit.toNat + toNat bits := by
      have joined := toNat_append [bit] bits
      rw [List.singleton_append, Nat.mul_comm] at joined
      simpa [toNat] using joined
    have top : (toNat (bit :: bits)).testBit bits.length = bit := by
      rw [split, Nat.testBit_two_pow_mul_add _ small]
      cases bit <;> simp
    have lower : toNat (bit :: bits) % 2 ^ bits.length = toNat bits % 2 ^ bits.length := by
      rw [split, Nat.mul_add_mod]
    rw [List.length_cons, ofNat, top, read _ _ _ lower, ih]

section Multiples

variable {α : Type} {add : α → α → α} {zero element : α}

/-- One step of a multiple: double, and add the element for a set bit. -/
def stepMultiple (add : α → α → α) (element total : α) (bit : Bool) : α :=
  let doubled := add total total
  if bit then add doubled element else doubled

/-- A multiple takes one step for each bit of its count. -/
theorem multiple_eq_foldl (count : Nat) :
    multiple add zero element count =
      (ofNat (count.log2 + 1) count).foldl (stepMultiple add element) zero := rfl

/-- A multiple stays inside whatever holds the neutral element and the element and is closed under
addition. -/
theorem multiple_induction {property : α → Prop} (neutral : property zero)
    (inside : property element)
    (closed : ∀ first second, property first → property second → property (add first second))
    (count : Nat) : property (multiple add zero element count) := by
  have steps (bits : List Bool) (total : α) (start : property total) :
      property (bits.foldl (stepMultiple add element) total) := by
    induction bits generalizing total with
    | nil => exact start
    | cons bit bits ih =>
      have doubled := closed total total start start
      cases bit with
      | false => exact ih _ doubled
      | true => exact ih _ (closed _ _ doubled inside)
  exact steps _ zero neutral

/-- A multiple is the power that the count says, if addition is a product of values and the value of
the neutral element is one. -/
theorem value_multiple {M : Type} [Monoid M] {value : α → M} (one : value zero = 1)
    (product : ∀ first second, value (add first second) = value first * value second)
    (count : Nat) : value (multiple add zero element count) = value element ^ count := by
  -- The bits so far are the number of the power so far.
  have steps (bits : List Bool) (total : α) (power : Nat)
      (start : value total = value element ^ power) :
      value (bits.foldl (stepMultiple add element) total) =
        value element ^ bits.foldl (fun number bit => 2 * number + bit.toNat) power := by
    induction bits generalizing total power with
    | nil => exact start
    | cons bit bits ih =>
      have doubled : value (add total total) = value element ^ (2 * power) := by
        rw [product, start, ← pow_add, Nat.two_mul]
      apply ih
      cases bit with
      | false => exact doubled
      | true =>
        show value (add (add total total) element) = value element ^ (2 * power + 1)
        rw [product, doubled, pow_succ]
  have bound : count < Nat.pow 2 (count.log2 + 1) := Nat.lt_log2_self
  have whole := toNat_ofNat (count.log2 + 1) count
  rw [Nat.mod_eq_of_lt bound] at whole
  rw [multiple_eq_foldl, steps _ zero 0 (by rw [one, pow_zero])]
  exact congrArg (value element ^ ·) whole

end Multiples

end RoundKey.Bits
