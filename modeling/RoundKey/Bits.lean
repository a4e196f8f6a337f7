/-!
# Bits of numbers and cuts into groups

A number as its bits, most significant first, and a list cut into full groups of one width.
Regrouping between widths is what the text encodings do, and a multiple in any monoid is a
walk over the bits of its count.
-/
namespace RoundKey.Bits

/-- The low `width` bits of a number, most significant first. -/
def ofNat : (width : Nat) → (value : Nat) → List Bool
  | 0, _ => []
  | width + 1, value => value.testBit width :: ofNat width value

/-- The number whose bits these are, most significant first. -/
def toNat (bits : List Bool) : Nat :=
  bits.foldl (fun value bit => 2 * value + bit.toNat) 0

/-- The first `count` groups of `width` items. -/
def groups {α : Type} (width : Nat) : (count : Nat) → List α → List (List α)
  | 0, _ => []
  | count + 1, items => items.take width :: groups width count (items.drop width)

/-- The multiple `count` of an element, by doubling and adding along the bits of `count`. -/
def multiple {α : Type} (add : α → α → α) (zero element : α) (count : Nat) : α :=
  (ofNat (count.log2 + 1) count).foldl
    (fun total bit =>
      let doubled := add total total
      if bit then add doubled element else doubled)
    zero

@[simp]
theorem length_ofNat (width value : Nat) : (ofNat width value).length = width := by
  induction width with
  | zero => rfl
  | succ width ih => simp [ofNat, ih]

@[simp]
theorem length_groups {α : Type} (width count : Nat) (items : List α) :
    (groups width count items).length = count := by
  induction count generalizing items with
  | zero => rfl
  | succ count ih => simp [groups, ih]

end RoundKey.Bits
