import RoundKey.Proofs.Bits
import RoundKey.Text.Alphabet

/-!
# Regrouping bits

A list cut into groups is put together again by joining them. So the characters of a byte string
carry its bits followed by less than one byte of zeros, and reading them gives the byte string back.
-/
namespace RoundKey

namespace Bits

/-- The bits of the numbers of groups of one width are the groups, joined. -/
theorem flatMap_ofNat_map_toNat {width : Nat} {pieces : List (List Bool)}
    (widths : ∀ piece ∈ pieces, piece.length = width) :
    (pieces.map toNat).flatMap (ofNat width) = pieces.flatten := by
  induction pieces with
  | nil => rfl
  | cons piece pieces ih =>
    rw [List.forall_mem_cons] at widths
    have same : ofNat width (toNat piece) = piece := widths.1 ▸ ofNat_toNat piece
    rw [List.map_cons, List.flatMap_cons, same, ih widths.2, List.flatten_cons]

variable {α : Type} {width : Nat}

/-- Joined groups of one width are cut into the same groups, whatever follows them. -/
theorem groups_flatten_append (pieces : List (List α)) (rest : List α)
    (widths : ∀ piece ∈ pieces, piece.length = width) :
    groups width pieces.length (pieces.flatten ++ rest) = pieces := by
  induction pieces with
  | nil => rfl
  | cons piece pieces ih =>
    rw [List.forall_mem_cons] at widths
    rw [List.length_cons, groups, List.flatten_cons, List.append_assoc,
      List.take_left' widths.1, List.drop_left' widths.1, ih widths.2]

/-- As many full groups as there are items for join to those items. -/
theorem flatten_groups {count : Nat} {items : List α} (exact : items.length = count * width) :
    (groups width count items).flatten = items := by
  induction count generalizing items with
  | zero =>
    rw [Nat.zero_mul] at exact
    exact (List.eq_nil_of_length_eq_zero exact).symm
  | succ count ih =>
    rw [Nat.succ_mul] at exact
    have rest : (items.drop width).length = count * width := by
      rw [List.length_drop]
      omega
    rw [groups, List.flatten_cons, ih rest, List.take_append_drop]

/-- Every group has the full width if there are items enough. -/
theorem length_of_mem_groups {count : Nat} {items : List α}
    (enough : count * width ≤ items.length) :
    ∀ group ∈ groups width count items, group.length = width := by
  induction count generalizing items with
  | zero => simp [groups]
  | succ count ih =>
    rw [Nat.succ_mul] at enough
    rw [groups, List.forall_mem_cons, List.length_take]
    refine ⟨by omega, ih ?_⟩
    rw [List.length_drop]
    omega

/-- A front of full groups is cut on its own. -/
theorem groups_append {first second : Nat} {front rest : List α}
    (exact : front.length = first * width) :
    groups width (first + second) (front ++ rest) =
      groups width first front ++ groups width second rest := by
  induction first generalizing front with
  | zero =>
    rw [Nat.zero_mul] at exact
    simp [List.eq_nil_of_length_eq_zero exact, groups]
  | succ first ih =>
    rw [Nat.succ_mul] at exact
    have later : (front.drop width).length = first * width := by
      rw [List.length_drop]
      omega
    rw [Nat.succ_add, groups, groups, List.take_append_of_le_length (by omega),
      List.drop_append_of_le_length (by omega), ih later, List.cons_append]

end Bits

namespace Text.Alphabet

variable (alphabet : Alphabet)

/-- Every group of bits has a character of its own. -/
structure Lawful : Prop where
  /-- A character carries at least one bit. -/
  width_pos : 0 < alphabet.width
  /-- A character carries at most a byte. -/
  width_le : alphabet.width ≤ 8
  /-- There is a character for every number below the power of two. -/
  length_symbols : alphabet.symbols.length = Nat.pow 2 alphabet.width
  /-- No character stands for two numbers. -/
  nodup : alphabet.symbols.Nodup

variable {alphabet}

/-- The character of a group of bits is one of the alphabet. -/
theorem symbol_mem (lawful : alphabet.Lawful) {bits : List Bool}
    (width : bits.length = alphabet.width) : alphabet.symbol bits ∈ alphabet.symbols := by
  have inside : Bits.toNat bits < alphabet.symbols.length := by
    rw [lawful.length_symbols, ← width]
    exact Bits.toNat_lt bits
  rw [symbol, List.getElem?_eq_getElem inside]
  exact List.getElem_mem inside

/-- The character of a group of bits stands for their number. -/
theorem value?_symbol (lawful : alphabet.Lawful) {bits : List Bool}
    (width : bits.length = alphabet.width) :
    alphabet.value? (alphabet.symbol bits) = some (Bits.toNat bits) := by
  have inside : Bits.toNat bits < alphabet.symbols.length := by
    rw [lawful.length_symbols, ← width]
    exact Bits.toNat_lt bits
  rw [symbol, List.getElem?_eq_getElem inside, value?, List.findIdx?_eq_some_iff_getElem]
  refine ⟨inside, by simp, fun earlier before => ?_⟩
  have distinct := List.pairwise_iff_getElem.mp lawful.nodup earlier _ (by omega) inside before
  simpa using distinct

/-- The characters of groups of bits stand for the numbers of the groups. -/
theorem values_map_symbol (lawful : alphabet.Lawful) (position : Nat) {groups : List (List Bool)}
    (widths : ∀ group ∈ groups, group.length = alphabet.width) :
    alphabet.values position (groups.map alphabet.symbol) = .ok (groups.map Bits.toNat) := by
  induction groups generalizing position with
  | nil => rfl
  | cons group groups ih =>
    rw [List.forall_mem_cons] at widths
    simp [values, value?_symbol lawful widths.1, ih (position + 1) widths.2, Except.map]

/-- The bits of a byte string. -/
def byteBits (bytes : List UInt8) : List Bool := bytes.flatMap fun byte => Bits.ofNat 8 byte.toNat

@[simp]
theorem length_byteBits (bytes : List UInt8) : (byteBits bytes).length = 8 * bytes.length := by
  induction bytes with
  | nil => rfl
  | cons byte bytes ih =>
    rw [byteBits, List.flatMap_cons, List.length_append, Bits.length_ofNat, ← byteBits, ih,
      List.length_cons]
    omega

/-- The bytes cut from the bits of a byte string are that byte string, whatever follows. -/
theorem map_groups_byteBits (bytes : List UInt8) (rest : List Bool) :
    (Bits.groups 8 bytes.length (byteBits bytes ++ rest)).map
      (fun group => UInt8.ofNat (Bits.toNat group)) = bytes := by
  have widths : ∀ piece ∈ bytes.map fun byte => Bits.ofNat 8 byte.toNat, piece.length = 8 := by
    simp
  have cut := Bits.groups_flatten_append _ rest widths
  have same (byte : UInt8) : UInt8.ofNat (Bits.toNat (Bits.ofNat 8 byte.toNat)) = byte := by
    rw [Bits.toNat_ofNat, Nat.mod_eq_of_lt byte.toNat_lt, UInt8.ofNat_toNat]
  rw [List.length_map] at cut
  rw [byteBits, List.flatMap_def, cut, List.map_map]
  simp [Function.comp_def, same]

/-- How many characters so many bytes take. -/
def characters (alphabet : Alphabet) (size : Nat) : Nat :=
  (8 * size + (alphabet.width - 1)) / alphabet.width

/-- The zeros that fill the last character of so many bytes. -/
def fill (alphabet : Alphabet) (size : Nat) : List Bool :=
  List.replicate (alphabet.characters size * alphabet.width - 8 * size) false

/-- The characters of a byte string carry its bits and the fill, in groups of their width. -/
theorem encode_eq (bytes : List UInt8) :
    alphabet.encode bytes =
      (Bits.groups alphabet.width (alphabet.characters bytes.length)
        (byteBits bytes ++ alphabet.fill bytes.length)).map alphabet.symbol := by
  have length := length_byteBits bytes
  rw [byteBits] at length
  simp only [encode, characters, fill, byteBits, length]

@[simp]
theorem length_encode (bytes : List UInt8) :
    (alphabet.encode bytes).length = alphabet.characters bytes.length := by
  simp [encode_eq]

/-- The fill makes the bits full characters and is shorter than one. -/
theorem length_fill (lawful : alphabet.Lawful) (size : Nat) :
    8 * size + (alphabet.fill size).length = alphabet.characters size * alphabet.width ∧
      (alphabet.fill size).length < alphabet.width := by
  have positive := lawful.width_pos
  have divided := Nat.div_add_mod (8 * size + (alphabet.width - 1)) alphabet.width
  have below := Nat.mod_lt (8 * size + (alphabet.width - 1)) positive
  rw [Nat.mul_comm] at divided
  simp only [fill, List.length_replicate, characters]
  omega

/-- The groups of a byte string have the width of a character. -/
theorem length_of_mem_groups (lawful : alphabet.Lawful) (bytes : List UInt8) :
    ∀ group ∈ Bits.groups alphabet.width (alphabet.characters bytes.length)
      (byteBits bytes ++ alphabet.fill bytes.length), group.length = alphabet.width := by
  have whole : (byteBits bytes ++ alphabet.fill bytes.length).length =
      alphabet.characters bytes.length * alphabet.width := by
    rw [List.length_append, length_byteBits, (length_fill lawful bytes.length).1]
  exact Bits.length_of_mem_groups (Nat.le_of_eq whole.symm)

/-- All characters of a byte string are of the alphabet. -/
theorem mem_symbols_of_mem_encode (lawful : alphabet.Lawful) {bytes : List UInt8} :
    ∀ character ∈ alphabet.encode bytes, character ∈ alphabet.symbols := by
  rw [encode_eq, List.forall_mem_map]
  exact fun group inside => symbol_mem lawful (length_of_mem_groups lawful bytes group inside)

/-- Reading the characters of a byte string gives the byte string. -/
theorem decode_encode (lawful : alphabet.Lawful) (bytes : List UInt8) :
    alphabet.decode (alphabet.encode bytes) = .ok bytes := by
  have widths := length_of_mem_groups lawful bytes
  obtain ⟨full, short⟩ := length_fill lawful bytes.length
  have narrow := lawful.width_le
  have joined : (Bits.groups alphabet.width (alphabet.characters bytes.length)
      (byteBits bytes ++ alphabet.fill bytes.length)).flatten =
        byteBits bytes ++ alphabet.fill bytes.length :=
    Bits.flatten_groups (by rw [List.length_append, length_byteBits, full])
  have whole : (byteBits bytes ++ alphabet.fill bytes.length).length / 8 = bytes.length := by
    rw [List.length_append, length_byteBits]
    omega
  have zeros : (alphabet.fill bytes.length).any id = false := by simp [fill]
  rw [encode_eq]
  simp only [decode, values_map_symbol lawful 0 widths, bind, Except.bind,
    Bits.flatMap_ofNat_map_toNat widths, joined, whole, List.drop_left' (length_byteBits bytes),
    zeros, Bool.false_eq_true, ↓reduceIte, map_groups_byteBits]

/-- A front of bytes that fills its last character is encoded on its own. -/
theorem encode_append {front : List UInt8} (rest : List UInt8) {count : Nat}
    (positive : 0 < alphabet.width) (exact : 8 * front.length = count * alphabet.width) :
    alphabet.encode (front ++ rest) = alphabet.encode front ++ alphabet.encode rest := by
  have own : alphabet.characters front.length = count := by
    rw [characters, exact, Nat.mul_comm, Nat.mul_add_div positive,
      Nat.div_eq_of_lt (by omega), Nat.add_zero]
  have all : alphabet.characters (front ++ rest).length =
      count + alphabet.characters rest.length := by
    rw [characters, List.length_append, Nat.mul_add, exact, Nat.mul_comm, Nat.add_assoc,
      Nat.mul_add_div positive, characters]
  have nothing : alphabet.fill front.length = [] := by simp [fill, own, exact]
  have sameFill : alphabet.fill (front ++ rest).length = alphabet.fill rest.length := by
    rw [fill, all, List.length_append, Nat.mul_add, exact, Nat.add_mul, fill]
    congr 1
    omega
  have split : byteBits (front ++ rest) = byteBits front ++ byteBits rest := by simp [byteBits]
  rw [encode_eq, encode_eq, encode_eq, all, sameFill, split, own, nothing, List.append_nil,
    List.append_assoc, Bits.groups_append (by rw [length_byteBits, exact]), List.map_append]

end Text.Alphabet

end RoundKey
