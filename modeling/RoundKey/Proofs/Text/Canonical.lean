import RoundKey.Proofs.Text.Encoding

/-!
# The texts that are read

The characters of a text carry bits, and what is read of a text are all its bits but fewer than
eight, which have to be zeros. In base32 a length that is allowed leaves fewer zeros than a
character has bits, so a text is read only if it is the one that its bytes are written as. In base64
that holds of every block, so a text is read exactly if it is put together from such texts.
-/
namespace RoundKey.Text

namespace Alphabet

variable {alphabet : Alphabet} {text bytes : List UInt8}

/-- The characters of a text carry these bits, in groups of their width. -/
def Carries (alphabet : Alphabet) (text : List UInt8) (bits : List Bool) : Prop :=
  ∃ groups : List (List Bool), (∀ group ∈ groups, group.length = alphabet.width) ∧
    groups.flatten = bits ∧ text = groups.map alphabet.symbol

/-- A text spells a byte string: its characters carry the bits of the bytes, and behind them fewer
zeros than a character has bits. -/
def Spells (alphabet : Alphabet) (text bytes : List UInt8) : Prop :=
  ∃ fill < alphabet.width, alphabet.Carries text (byteBits bytes ++ List.replicate fill false)

/-- Groups of one width hold as many bits as their number says. -/
theorem length_flatten {width : Nat} {groups : List (List Bool)}
    (widths : ∀ group ∈ groups, group.length = width) :
    groups.flatten.length = groups.length * width := by
  induction groups with
  | nil => simp
  | cons group groups ih =>
    rw [List.forall_mem_cons] at widths
    rw [List.flatten_cons, List.length_append, widths.1, ih widths.2, List.length_cons,
      Nat.succ_mul, Nat.add_comm]

/-- A text has a character for each group of its bits. -/
theorem Carries.length_eq {bits : List Bool} (carries : alphabet.Carries text bits) :
    text.length * alphabet.width = bits.length := by
  obtain ⟨groups, widths, rfl, rfl⟩ := carries
  rw [List.length_map, length_flatten widths]

/-- Two texts that carry the same bits are the same. -/
theorem Carries.unique (lawful : alphabet.Lawful) {text' : List UInt8} {bits : List Bool}
    (carries : alphabet.Carries text bits) (carries' : alphabet.Carries text' bits) :
    text = text' := by
  have sameLength : text.length = text'.length := by
    have counted := carries.length_eq.trans carries'.length_eq.symm
    exact Nat.eq_of_mul_eq_mul_right lawful.width_pos counted
  obtain ⟨groups, widths, joined, rfl⟩ := carries
  obtain ⟨groups', widths', joined', rfl⟩ := carries'
  have cut := Bits.groups_flatten_append groups [] widths
  have cut' := Bits.groups_flatten_append groups' [] widths'
  rw [List.length_map, List.length_map] at sameLength
  rw [joined, sameLength] at cut
  rw [joined'] at cut'
  rw [← cut, cut']

/-- The characters that a byte string is written in carry its bits and the fill. -/
theorem carries_encode (lawful : alphabet.Lawful) (bytes : List UInt8) :
    alphabet.Carries (alphabet.encode bytes) (byteBits bytes ++ alphabet.fill bytes.length) := by
  have whole : (byteBits bytes ++ alphabet.fill bytes.length).length =
      alphabet.characters bytes.length * alphabet.width := by
    rw [List.length_append, length_byteBits, (length_fill lawful bytes.length).1]
  exact ⟨_, length_of_mem_groups lawful bytes, Bits.flatten_groups whole, encode_eq bytes⟩

/-- There is one number below a divisor that makes a number divisible. -/
theorem fill_unique {size width first second : Nat} (short : first < width)
    (short' : second < width) (full : (size + first) % width = 0)
    (full' : (size + second) % width = 0) : first = second := by
  have above := Nat.sub_mod_eq_zero_of_mod_eq (full.trans full'.symm)
  have below := Nat.sub_mod_eq_zero_of_mod_eq (full'.trans full.symm)
  rw [Nat.add_sub_add_left, Nat.mod_eq_of_lt (by omega)] at above below
  omega

/-- A byte string is written as the only text that spells it. -/
theorem eq_encode_iff_spells (lawful : alphabet.Lawful) :
    text = alphabet.encode bytes ↔ alphabet.Spells text bytes := by
  constructor
  · rintro rfl
    obtain ⟨-, short⟩ := length_fill lawful bytes.length
    have zeros : alphabet.fill bytes.length =
        List.replicate (alphabet.fill bytes.length).length false := by simp [fill]
    refine ⟨(alphabet.fill bytes.length).length, short, ?_⟩
    rw [← zeros]
    exact carries_encode lawful bytes
  · rintro ⟨fill, short, carries⟩
    have carries' := carries_encode lawful bytes
    obtain ⟨full, short'⟩ := length_fill lawful bytes.length
    have counted := carries.length_eq
    rw [List.length_append, List.length_replicate, length_byteBits] at counted
    have sameFill : fill = (alphabet.fill bytes.length).length := by
      apply fill_unique short short'
      · rw [← counted, Nat.mul_mod_left]
      · rw [full, Nat.mul_mod_left]
    have zeros : List.replicate fill false = alphabet.fill bytes.length := by
      rw [sameFill]
      simp [Alphabet.fill]
    rw [zeros] at carries
    exact carries.unique lawful carries'

/-- A character of the alphabet is the one of the bits of its number. -/
theorem symbol_of_value? (lawful : alphabet.Lawful) {character : UInt8} {number : Nat}
    (found : alphabet.value? character = some number) :
    alphabet.symbol (Bits.ofNat alphabet.width number) = character ∧
      Bits.toNat (Bits.ofNat alphabet.width number) = number := by
  rw [value?, List.findIdx?_eq_some_iff_getElem] at found
  obtain ⟨inside, same, -⟩ := found
  have small : number < Nat.pow 2 alphabet.width := lawful.length_symbols ▸ inside
  have whole : Bits.toNat (Bits.ofNat alphabet.width number) = number := by
    rw [Bits.toNat_ofNat, Nat.mod_eq_of_lt small]
  refine ⟨?_, whole⟩
  rw [symbol, whole, List.getElem?_eq_getElem inside]
  exact beq_iff_eq.mp same

/-- A text whose characters all stand for numbers carries the bits of these numbers. -/
theorem carries_of_values (lawful : alphabet.Lawful) {position : Nat} {numbers : List Nat}
    (read : alphabet.values position text = .ok numbers) :
    alphabet.Carries text (numbers.flatMap (Bits.ofNat alphabet.width)) := by
  refine ⟨numbers.map (Bits.ofNat alphabet.width), by simp, (List.flatMap_def ..).symm, ?_⟩
  induction text generalizing position numbers with
  | nil => cases read; rfl
  | cons character text ih =>
    rw [values] at read
    split at read
    · contradiction
    · next number found =>
      cases later : alphabet.values (position + 1) text with
      | error fault => simp [later, Except.map] at read
      | ok numbers' =>
        rw [later] at read
        cases read
        rw [List.map_cons, List.map_cons, (symbol_of_value? lawful found).1, ← ih later]

/-- The bytes cut from full bytes of bits have those bits. -/
theorem byteBits_map_groups {count : Nat} {bits : List Bool} (exact : bits.length = count * 8) :
    byteBits ((Bits.groups 8 count bits).map fun group => UInt8.ofNat (Bits.toNat group)) =
      bits := by
  have widths := Bits.length_of_mem_groups (Nat.le_of_eq exact.symm)
  have same : ∀ group ∈ Bits.groups 8 count bits,
      Bits.ofNat 8 (UInt8.ofNat (Bits.toNat group)).toNat = group := by
    intro group inside
    have width := widths group inside
    have small : Bits.toNat group < 256 := by
      have below := Bits.toNat_lt group
      rwa [width] at below
    rw [UInt8.toNat_ofNat', Nat.mod_eq_of_lt small, ← width, Bits.ofNat_toNat]
  rw [byteBits, List.flatMap_def, List.map_map, Function.comp_def, List.map_congr_left same,
    List.map_id', Bits.flatten_groups exact]

/-- Bits of which none is set are zeros. -/
theorem eq_replicate_of_any {bits : List Bool} (unset : ¬bits.any id = true) :
    bits = List.replicate bits.length false := by
  rw [List.eq_replicate_iff]
  refine ⟨rfl, fun bit inside => ?_⟩
  cases bit with
  | false => rfl
  | true => exact absurd (List.any_eq_true.mpr ⟨true, inside, rfl⟩) unset

/-- What is read of a text are bytes whose bits it carries, and behind them fewer than eight
zeros. -/
theorem decode_eq_ok (lawful : alphabet.Lawful) (read : alphabet.decode text = .ok bytes) :
    ∃ fill < 8, alphabet.Carries text (byteBits bytes ++ List.replicate fill false) := by
  unfold decode at read
  cases found : alphabet.values 0 text with
  | error fault => simp [found, bind, Except.bind] at read
  | ok numbers =>
    have carries := carries_of_values lawful found
    simp only [found, bind, Except.bind] at read
    generalize numbers.flatMap (Bits.ofNat alphabet.width) = bits at read carries
    split at read
    · contradiction
    · next zeros =>
      cases read
      have front : (bits.take (8 * (bits.length / 8))).length = bits.length / 8 * 8 := by
        rw [List.length_take]
        omega
      have cut : Bits.groups 8 (bits.length / 8 + 0)
          (bits.take (8 * (bits.length / 8)) ++ bits.drop (8 * (bits.length / 8))) = _ :=
        Bits.groups_append front
      rw [List.take_append_drop, Nat.add_zero, Bits.groups, List.append_nil] at cut
      have left : bits.drop (8 * (bits.length / 8)) = List.replicate (bits.length % 8) false := by
        have length : (bits.drop (8 * (bits.length / 8))).length = bits.length % 8 := by
          rw [List.length_drop]
          omega
        rw [← length]
        exact eq_replicate_of_any zeros
      refine ⟨bits.length % 8, Nat.mod_lt _ (by decide), ?_⟩
      rw [cut, byteBits_map_groups front, ← left, List.take_append_drop]
      exact carries

end Alphabet

namespace Base32

/-- A text is read exactly if it is the one that its bytes are written as. -/
theorem decode_eq_ok_iff {text bytes : List UInt8} :
    decode text = .ok bytes ↔ text = encode bytes := by
  constructor
  · intro read
    unfold decode at read
    split at read
    · next whole =>
      obtain ⟨fill, below, carries⟩ := Alphabet.decode_eq_ok alphabet_lawful read
      have counted : text.length * 5 = _ := carries.length_eq
      rw [List.length_append, List.length_replicate, Alphabet.length_byteBits] at counted
      -- five bits or more behind the last byte would be a character that no encoding has
      have short : fill < alphabet.width := by
        have left : fill = text.length * 5 % 8 := by omega
        show fill < 5
        rw [wholeLength] at whole
        omega
      exact (Alphabet.eq_encode_iff_spells alphabet_lawful).mpr ⟨fill, short, carries⟩
    · contradiction
  · rintro rfl
    exact decode_encode bytes

end Base32

namespace Base64

/-- A text spells a byte string: the characters of the alphabet spell it, and signs fill the last
block of four. -/
def Spells (text bytes : List UInt8) : Prop :=
  ∃ (body : List UInt8) (signs : Nat), text = body ++ List.replicate signs pad ∧ signs < 4 ∧
    text.length % 4 = 0 ∧ alphabet.Spells body bytes

/-- A byte string is written as the only text that spells it. -/
theorem eq_encode_iff_spells {text bytes : List UInt8} :
    text = encode bytes ↔ Spells text bytes := by
  constructor
  · rintro rfl
    exact ⟨alphabet.encode bytes, _, rfl, Nat.mod_lt _ (by decide), length_encode_mod bytes,
      (Alphabet.eq_encode_iff_spells alphabet_lawful).mp rfl⟩
  · rintro ⟨body, signs, rfl, few, whole, spells⟩
    obtain rfl := (Alphabet.eq_encode_iff_spells alphabet_lawful).mpr spells
    rw [List.length_append, List.length_replicate] at whole
    have same : signs = (4 - (alphabet.encode bytes).length % 4) % 4 := by omega
    rw [encode, same]

/-- A block is its content and the signs that fill it. -/
theorem content_append (block : List UInt8) :
    ∃ signs, block = content block ++ List.replicate signs pad := by
  let signs := block.reverse.takeWhile (· == pad)
  have all : signs = List.replicate signs.length pad := by
    rw [List.eq_replicate_iff]
    refine ⟨rfl, fun character inside => ?_⟩
    have isPad := List.all_eq_true.mp List.all_takeWhile character inside
    exact beq_iff_eq.mp isPad
  refine ⟨signs.length, ?_⟩
  have split : signs ++ block.reverse.dropWhile (· == pad) = block.reverse :=
    List.takeWhile_append_dropWhile
  rw [all] at split
  calc
    block = (List.replicate signs.length pad ++ block.reverse.dropWhile (· == pad)).reverse := by
      rw [split, List.reverse_reverse]
    _ = content block ++ List.replicate signs.length pad := by
      rw [List.reverse_append, List.reverse_replicate, content]

/-- A block is read only if it is the text of its bytes. -/
theorem eq_encode_of_decodeBlock {block bytes : List UInt8} (four : block.length = 4)
    (read : decodeBlock block = .ok bytes) : block = encode bytes := by
  unfold decodeBlock at read
  dsimp only at read
  split at read
  · contradiction
  · next long =>
    obtain ⟨fill, below, carries⟩ := Alphabet.decode_eq_ok alphabet_lawful read
    obtain ⟨signs, filled⟩ := content_append block
    have parts := congrArg List.length filled
    rw [List.length_append, List.length_replicate, four] at parts
    have counted : (content block).length * 6 = _ := carries.length_eq
    rw [List.length_append, List.length_replicate, Alphabet.length_byteBits] at counted
    -- two, three or four characters leave four, two or no bits behind the last byte
    have short : fill < alphabet.width := by
      show fill < 6
      omega
    have whole : block.length % 4 = 0 := by rw [four]
    exact eq_encode_iff_spells.mpr
      ⟨content block, signs, filled, by omega, whole, fill, short, carries⟩

/-- Texts of byte strings one after another are read as these byte strings one after another. -/
theorem decodeBlocks_flatMap_encode (pieces : List (List UInt8)) (position : Nat) :
    decodeBlocks position (pieces.flatMap encode) = .ok pieces.flatten := by
  induction pieces generalizing position with
  | nil => rfl
  | cons piece pieces ih =>
    rw [List.flatMap_cons, List.flatten_cons]
    exact decodeBlocks_encode_append ih piece position

/-- Blocks are read only if they are put together from the texts of byte strings. -/
theorem exists_flatMap_encode {position : Nat} {text bytes : List UInt8}
    (whole : text.length % 4 = 0) (read : decodeBlocks position text = .ok bytes) :
    ∃ pieces : List (List UInt8), text = pieces.flatMap encode ∧ pieces.flatten = bytes := by
  fun_induction decodeBlocks position text generalizing bytes with
  | case1 position first second third fourth rest fault failed => contradiction
  | case2 position first second third fourth rest found decoded ih =>
    cases later : decodeBlocks (position + 4) rest with
    | error fault => simp [later, Except.map] at read
    | ok others =>
      rw [later] at read
      cases read
      have block := eq_encode_of_decodeBlock rfl decoded
      have wholeRest : rest.length % 4 = 0 := by
        simp only [List.length_cons] at whole
        omega
      obtain ⟨pieces, rfl, rfl⟩ := ih wholeRest later
      refine ⟨found :: pieces, ?_, rfl⟩
      rw [List.flatMap_cons, ← block]
      rfl
  | case3 text position short =>
    cases read
    have empty : text = [] := by
      match text with
      | [] => rfl
      | [_] | [_, _] | [_, _, _] => simp at whole
      | first :: second :: third :: fourth :: rest =>
        exact (short first second third fourth rest rfl).elim
    exact ⟨[], empty, rfl⟩

/-- A text is read exactly if it is put together from the texts of byte strings, as these byte
strings one after another. -/
theorem decode_eq_ok_iff {text bytes : List UInt8} :
    decode text = .ok bytes ↔
      ∃ pieces : List (List UInt8), text = pieces.flatMap encode ∧ pieces.flatten = bytes := by
  constructor
  · intro read
    unfold decode at read
    split at read
    · next whole => exact exists_flatMap_encode whole read
    · contradiction
  · rintro ⟨pieces, rfl, rfl⟩
    have whole : (pieces.flatMap encode).length % 4 = 0 := by
      induction pieces with
      | nil => rfl
      | cons piece pieces ih =>
        have block := length_encode_mod piece
        rw [List.flatMap_cons, List.length_append]
        omega
    rw [decode, if_pos whole, decodeBlocks_flatMap_encode]

end Base64

end RoundKey.Text
