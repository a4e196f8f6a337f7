import RoundKey.Crypto.Box

/-!
# Opening what was sealed

The stream has a byte for every byte of a message, so combining twice gives the message back, and
the tag is recomputed over the same ciphertext. A box is longer than its message by exactly its
tag. So a box opens to a message exactly if it is what the message is sealed in, and that is said
byte by byte, without cutting the stream.
-/
namespace RoundKey

/-- Blocks have 64 bytes each. -/
@[simp]
theorem Salsa.length_blocks (key : Octets 32) (nonce : List UInt8) (count number : Nat) :
    (blocks key nonce count number).length = 64 * count := by
  induction count generalizing number with
  | zero => rfl
  | succ count ih =>
    rw [blocks, List.length_append, length_block, ih]
    omega

/-- A stream is as long as was asked for. -/
theorem Salsa.le_length_stream (key : Octets 32) (nonce : Octets 24) (length : Nat) :
    length ≤ (stream key nonce length).length := by
  rw [stream, length_blocks]
  omega

/-- The byte of a stream at a position. Blocks of 64 bytes follow each other by number, under the
key that the first sixteen bytes of the nonce derive and behind the other eight. -/
def Salsa.streamByte (key : Octets 32) (nonce : Octets 24) (position : Nat) : UInt8 :=
  (block (derive key (nonce.toList.take 16))
    (nonce.toList.drop 16 ++ littleEndian 8 (position / 64))).getD (position % 64) 0

/-- A byte of several blocks is in the block that its position says. -/
theorem Salsa.getElem?_blocks {key : Octets 32} {nonce : List UInt8} {count number position : Nat}
    (inside : position < 64 * count) :
    (blocks key nonce count number)[position]? =
      (block key (nonce ++ littleEndian 8 (number + position / 64)))[position % 64]? := by
  induction count generalizing number position with
  | zero => omega
  | succ count ih =>
    rw [blocks]
    by_cases first : position < 64
    · have own : position / 64 = 0 := Nat.div_eq_of_lt first
      rw [List.getElem?_append_left (by rw [length_block]; exact first), own, Nat.add_zero,
        Nat.mod_eq_of_lt first]
    · have later : number + 1 + (position - 64) / 64 = number + position / 64 := by omega
      have same : (position - 64) % 64 = position % 64 := by omega
      rw [List.getElem?_append_right (by rw [length_block]; omega), length_block,
        ih (by omega), later, same]

/-- A stream has the bytes of its positions. -/
theorem Salsa.getElem?_stream {key : Octets 32} {nonce : Octets 24} {length position : Nat}
    (inside : position < length) :
    (stream key nonce length)[position]? = some (streamByte key nonce position) := by
  have within : position < 64 * ((length + 63) / 64) := by omega
  rw [stream, getElem?_blocks within, Nat.zero_add, streamByte, List.getD_eq_getElem?_getD]
  have short : position % 64 < 64 := Nat.mod_lt position (by decide)
  rw [List.getElem?_eq_getElem (by rw [length_block]; exact short), Option.getD_some]

namespace Box

variable {key : Octets 32} {nonce : Octets 24}

/-- Combining bytes with a stream twice changes nothing, if the stream is long enough. -/
theorem combine_combine {bytes stream : List UInt8} (enough : bytes.length ≤ stream.length) :
    combine (combine bytes stream) stream = bytes := by
  induction bytes generalizing stream with
  | nil => rfl
  | cons byte bytes ih =>
    cases stream with
    | nil => simp at enough
    | cons mask stream =>
      have later := ih (Nat.le_of_succ_le_succ enough)
      have same : byte ^^^ mask ^^^ mask = byte := by
        rw [UInt8.xor_assoc, UInt8.xor_self, UInt8.xor_zero]
      simp only [combine, List.zipWith_cons_cons] at later ⊢
      rw [same, later]

/-- A ciphertext is as long as its message. -/
theorem length_combine {bytes stream : List UInt8} (enough : bytes.length ≤ stream.length) :
    (combine bytes stream).length = bytes.length := by
  rw [combine, List.length_zipWith, Nat.min_eq_left enough]

/-- The stream behind the key of the tag is as long as a message. -/
theorem le_length_drop_stream (key : Octets 32) (nonce : Octets 24) (length : Nat) :
    length ≤ ((Salsa.stream key nonce (32 + length)).drop 32).length := by
  have long := Salsa.le_length_stream key nonce (32 + length)
  rw [List.length_drop]
  omega

/-- A box is opened to the message that was sealed in it. -/
theorem openUnder_sealUnder (key : Octets 32) (nonce : Octets 24) (message : List UInt8) :
    openUnder key nonce (sealUnder key nonce message) = some message := by
  have enough := le_length_drop_stream key nonce message.length
  let stream := Salsa.stream key nonce (32 + message.length)
  let ciphertext := combine message (stream.drop 32)
  let tag := Poly1305.tag (stream.take 32) ciphertext
  have sealed : sealUnder key nonce message = tag.toList ++ ciphertext := rfl
  have sameLength : ciphertext.length = message.length := length_combine enough
  have front : (tag.toList ++ ciphertext).take overhead = tag.toList :=
    List.take_left' tag.length_eq
  have back : (tag.toList ++ ciphertext).drop overhead = ciphertext :=
    List.drop_left' tag.length_eq
  have long : ¬(tag.toList ++ ciphertext).length < overhead := by
    rw [List.length_append, tag.length_eq, overhead]
    omega
  rw [sealed, openUnder, if_neg long]
  simp only [front, back, sameLength]
  rw [if_pos rfl, combine_combine enough]

/-- A box is longer than its message by its tag. -/
theorem length_of_openUnder {box message : List UInt8}
    (opened : openUnder key nonce box = some message) :
    box.length = message.length + overhead := by
  unfold openUnder at opened
  split at opened
  · contradiction
  · next long =>
    dsimp only at opened
    split at opened
    · cases opened
      rw [length_combine (le_length_drop_stream key nonce _), List.length_drop]
      omega
    · contradiction

/-- A box that opens to a message is what the message is sealed in. -/
theorem eq_sealUnder_of_openUnder {box message : List UInt8}
    (opened : openUnder key nonce box = some message) : box = sealUnder key nonce message := by
  have length := length_of_openUnder opened
  unfold openUnder at opened
  split at opened
  · contradiction
  · dsimp only at opened
    split at opened
    · next tagged =>
      have enough := le_length_drop_stream key nonce (box.drop overhead).length
      have sameLength : (box.drop overhead).length = message.length := by
        rw [List.length_drop]
        omega
      -- combining the message gives the ciphertext of the box, so the tag is over the same bytes
      have restored := combine_combine enough
      rw [Option.some.inj opened, sameLength] at restored
      rw [sameLength] at tagged
      rw [sealUnder]
      simp only [restored]
      rw [← tagged, List.take_append_drop]
    · contradiction

/-- A box opens to a message exactly if it is what the message is sealed in. -/
theorem openUnder_eq_some_iff {box message : List UInt8} :
    openUnder key nonce box = some message ↔ box = sealUnder key nonce message := by
  constructor
  · exact eq_sealUnder_of_openUnder
  · rintro rfl
    exact openUnder_sealUnder key nonce message

/-- A box seals a message: it has the sixteen bytes of a tag and then a byte for each byte of the
message, combined with the byte of the stream 32 positions further on. The first 32 bytes of the
stream are the key of the tag. -/
structure Seals (key : Octets 32) (nonce : Octets 24) (message box : List UInt8) : Prop where
  /-- The box is longer than the message by the tag. -/
  length_eq : box.length = 16 + message.length
  /-- The tag is that of the bytes behind it. -/
  tag_eq : box.take 16 =
    (Poly1305.tag ((List.range 32).map (Salsa.streamByte key nonce)) (box.drop 16)).toList
  /-- The bytes behind the tag are those of the message and the stream. -/
  byte_eq : ∀ (position : Nat) (inside : position < message.length),
    box[16 + position]? = some (message[position] ^^^ Salsa.streamByte key nonce (32 + position))

/-- The key of the tag is the front of the stream. -/
theorem take_stream (length : Nat) :
    (Salsa.stream key nonce (32 + length)).take 32 =
      (List.range 32).map (Salsa.streamByte key nonce) := by
  apply List.ext_getElem?
  intro position
  by_cases inside : position < 32
  · rw [List.getElem?_take_of_lt inside, Salsa.getElem?_stream (by omega), List.getElem?_map,
      List.getElem?_range inside, Option.map_some]
  · rw [List.getElem?_eq_none (by rw [List.length_take]; omega),
      List.getElem?_eq_none (by rw [List.length_map, List.length_range]; omega)]

/-- A ciphertext has the bytes of the message, combined with those of the stream. -/
theorem getElem?_ciphertext {message : List UInt8} {position : Nat}
    (inside : position < message.length) :
    (combine message ((Salsa.stream key nonce (32 + message.length)).drop 32))[position]? =
      some (message[position] ^^^ Salsa.streamByte key nonce (32 + position)) := by
  have within : 32 + position < 32 + message.length := Nat.add_lt_add_left inside 32
  rw [combine, List.getElem?_zipWith, List.getElem?_drop, Salsa.getElem?_stream within,
    List.getElem?_eq_getElem inside]

/-- A box seals a message exactly if it is what the message is sealed in. -/
theorem seals_iff {box message : List UInt8} :
    Seals key nonce message box ↔ box = sealUnder key nonce message := by
  have enough := le_length_drop_stream key nonce message.length
  have length := length_combine enough
  constructor
  · intro seals
    have back : box.drop 16 =
        combine message ((Salsa.stream key nonce (32 + message.length)).drop 32) := by
      apply List.ext_getElem?
      intro position
      rw [List.getElem?_drop]
      by_cases inside : position < message.length
      · rw [seals.byte_eq position inside, getElem?_ciphertext inside]
      · have long := seals.length_eq
        rw [List.getElem?_eq_none (by omega), List.getElem?_eq_none (by omega)]
    have front := seals.tag_eq
    rw [back, ← take_stream message.length] at front
    rw [← List.take_append_drop 16 box, front, back, sealUnder]
  · rintro rfl
    let ciphertext := combine message ((Salsa.stream key nonce (32 + message.length)).drop 32)
    let tag := Poly1305.tag ((List.range 32).map (Salsa.streamByte key nonce)) ciphertext
    have parts : sealUnder key nonce message = tag.toList ++ ciphertext := by
      rw [sealUnder, take_stream]
    have back : (tag.toList ++ ciphertext).drop 16 = ciphertext := List.drop_left' tag.length_eq
    rw [parts]
    refine ⟨?_, ?_, fun position inside => ?_⟩
    · rw [List.length_append, tag.length_eq, length]
    · rw [back, List.take_left' tag.length_eq]
    · rw [← List.getElem?_drop, back, getElem?_ciphertext inside]

end Box

end RoundKey
