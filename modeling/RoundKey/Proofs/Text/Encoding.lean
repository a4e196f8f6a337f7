import RoundKey.Proofs.Text.Alphabet
import RoundKey.Text.Base32
import RoundKey.Text.Base64

/-!
# Reading back encoded bytes

In base64 three bytes fill four characters, so a text is made of blocks that are read on their
own, and the last block loses exactly the signs that fill it. In base32 the text of a byte string
has a length that is read. All characters of both are ASCII.
-/
namespace RoundKey.Text

namespace Base64

/-- The alphabet has a character for each group of six bits. -/
theorem alphabet_lawful : alphabet.Lawful where
  width_pos := by decide
  width_le := by decide
  length_symbols := by decide
  nodup := by decide +kernel

/-- The sign that fills a block stands for no number. -/
theorem ne_pad_of_mem_symbols : ∀ character ∈ alphabet.symbols, character ≠ pad := by
  decide +kernel

/-- The characters of a byte string are ASCII. -/
theorem lt_of_mem_encode {bytes : List UInt8} :
    ∀ character ∈ encode bytes, character < 0x80 := by
  have symbols : ∀ character ∈ alphabet.symbols, character < 0x80 := by decide +kernel
  intro character inside
  rw [encode, List.mem_append, List.mem_replicate] at inside
  rcases inside with inside | ⟨-, rfl⟩
  · exact symbols _ (Alphabet.mem_symbols_of_mem_encode alphabet_lawful _ inside)
  · decide

@[simp]
theorem encode_nil : encode [] = [] := rfl

/-- Taking the signs that fill a block away leaves its characters. -/
theorem content_append_replicate {body : List UInt8} (clean : ∀ character ∈ body, character ≠ pad)
    (count : Nat) : content (body ++ List.replicate count pad) = body := by
  have kept : body.reverse.dropWhile (· == pad) = body.reverse := by
    cases reversed : body.reverse with
    | nil => rfl
    | cons last front =>
      have inside : last ∈ body := by
        rw [← List.mem_reverse, reversed]
        exact List.mem_cons_self
      simp [clean last inside]
  have signs : (List.replicate count pad).dropWhile (· == pad) = [] := by simp
  rw [content, List.reverse_append, List.reverse_replicate, List.dropWhile_append, signs]
  simp [kept]

/-- A byte string has a character for each six of its bits and one for those that are left. -/
theorem length_alphabet_encode (bytes : List UInt8) :
    (alphabet.encode bytes).length = (8 * bytes.length + 5) / 6 :=
  Alphabet.length_encode bytes

/-- A block of one to three bytes has four characters and is read on its own. -/
theorem decodeBlock_encode {chunk : List UInt8} (first : 0 < chunk.length)
    (last : chunk.length ≤ 3) :
    (encode chunk).length = 4 ∧ decodeBlock (encode chunk) = .ok chunk := by
  have characters : (alphabet.encode chunk).length = chunk.length + 1 := by
    rw [length_alphabet_encode]
    omega
  have clean : ∀ character ∈ alphabet.encode chunk, character ≠ pad := fun character inside =>
    ne_pad_of_mem_symbols _ (Alphabet.mem_symbols_of_mem_encode alphabet_lawful _ inside)
  constructor
  · rw [encode, List.length_append, List.length_replicate, characters]
    omega
  · simp only [decodeBlock, encode, content_append_replicate clean, characters]
    rw [if_neg (by omega), Alphabet.decode_encode alphabet_lawful]

/-- Three bytes in front are a block of their own. -/
theorem encode_append {chunk : List UInt8} (three : chunk.length = 3) (rest : List UInt8) :
    encode (chunk ++ rest) = encode chunk ++ encode rest := by
  have four : (alphabet.encode chunk).length = 4 := by
    rw [length_alphabet_encode, three]
  have exact : 8 * chunk.length = 4 * alphabet.width := by rw [three]; rfl
  have split := Alphabet.encode_append rest (by decide : 0 < alphabet.width) exact
  simp [encode, split, four]

/-- A block in front is read on its own, and its fault is reported where it stands. -/
theorem decodeBlocks_append {block : List UInt8} (four : block.length = 4) (position : Nat)
    (rest : List UInt8) :
    decodeBlocks position (block ++ rest) =
      match decodeBlock block with
      | .error fault => .error (fault.shift position)
      | .ok bytes => (decodeBlocks (position + 4) rest).map (bytes ++ ·) := by
  match block, four with
  | [first, second, third, fourth], _ => rfl

/-- The blocks of a byte string in front are read as the byte string, if what follows is read. -/
theorem decodeBlocks_encode_append {rest others : List UInt8}
    (later : ∀ position, decodeBlocks position rest = .ok others) (bytes : List UInt8)
    (position : Nat) : decodeBlocks position (encode bytes ++ rest) = .ok (bytes ++ others) := by
  have read (chunk after : List UInt8) (first : 0 < chunk.length) (last : chunk.length ≤ 3)
      (split : encode (chunk ++ after) = encode chunk ++ encode after)
      (next : decodeBlocks (position + 4) (encode after ++ rest) = .ok (after ++ others)) :
      decodeBlocks position (encode (chunk ++ after) ++ rest) =
        .ok (chunk ++ after ++ others) := by
    obtain ⟨four, decoded⟩ := decodeBlock_encode first last
    rw [split, List.append_assoc, decodeBlocks_append four, decoded, next, List.append_assoc]
    rfl
  match bytes with
  | [] => exact later position
  | [first] => exact read [first] [] (by simp) (by simp) (by simp) (later (position + 4))
  | [first, second] =>
    exact read [first, second] [] (by simp) (by simp) (by simp) (later (position + 4))
  | first :: second :: third :: after =>
    exact read [first, second, third] after (by simp) (by simp) (encode_append rfl after)
      (decodeBlocks_encode_append later after (position + 4))

/-- Reading the blocks of a byte string gives the byte string. -/
theorem decodeBlocks_encode (position : Nat) (bytes : List UInt8) :
    decodeBlocks position (encode bytes) = .ok bytes := by
  have nothing (position : Nat) : decodeBlocks position [] = .ok [] := rfl
  have read := decodeBlocks_encode_append nothing bytes position
  rwa [List.append_nil, List.append_nil] at read

/-- The text of a byte string has whole blocks. -/
theorem length_encode_mod (bytes : List UInt8) : (encode bytes).length % 4 = 0 := by
  rw [encode, List.length_append, List.length_replicate]
  omega

/-- Reading the text of a byte string gives the byte string. -/
theorem decode_encode (bytes : List UInt8) : decode (encode bytes) = .ok bytes := by
  rw [decode, if_pos (length_encode_mod bytes), decodeBlocks_encode]

end Base64

namespace Base32

/-- The alphabet has a character for each group of five bits. -/
theorem alphabet_lawful : alphabet.Lawful where
  width_pos := by decide
  width_le := by decide
  length_symbols := by decide
  nodup := by decide +kernel

/-- The characters of a byte string are ASCII. -/
theorem lt_of_mem_encode {bytes : List UInt8} :
    ∀ character ∈ encode bytes, character < 0x80 := by
  have symbols : ∀ character ∈ alphabet.symbols, character < 0x80 := by decide +kernel
  exact fun character inside =>
    symbols _ (Alphabet.mem_symbols_of_mem_encode alphabet_lawful _ inside)

/-- Reading the text of a byte string gives the byte string. -/
theorem decode_encode (bytes : List UInt8) : decode (encode bytes) = .ok bytes := by
  have counted : (encode bytes).length = (8 * bytes.length + 4) / 5 :=
    Alphabet.length_encode bytes
  have beyond : (encode bytes).length * 5 % 8 / 5 = 0 := by
    have fill : (encode bytes).length * 5 % 8 = (encode bytes).length * 5 - 8 * bytes.length := by
      omega
    omega
  have whole : wholeLength (encode bytes).length = (encode bytes).length := by
    rw [wholeLength, beyond, Nat.sub_zero]
  rw [decode, if_pos whole]
  exact Alphabet.decode_encode alphabet_lawful bytes

end Base32

end RoundKey.Text
