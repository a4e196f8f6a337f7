import RoundKey.Proofs.Data.Scalar
import RoundKey.Proofs.Text.Canonical

/-!
# The texts of binary fields

In base32 a field has one text for each of its values and no other text is read, so no two texts
name one key. In base64 a field also reads texts that are put together, one after another, from the
texts of byte strings. A text of bytes that are not of the type of the field is refused with their
number.
-/
namespace RoundKey.Data

/-- A text spells a byte string in an encoding. -/
def Encoding.Spells : Encoding → (text bytes : List UInt8) → Prop
  | base64 => Text.Base64.Spells
  | base32 => Text.Base32.alphabet.Spells

/-- A byte string is written as the only text that spells it. -/
theorem Encoding.eq_encode_iff_spells (encoding : Encoding) {text bytes : List UInt8} :
    text = encoding.encode bytes ↔ encoding.Spells text bytes := by
  cases encoding with
  | base64 => exact Text.Base64.eq_encode_iff_spells
  | base32 => exact Text.Alphabet.eq_encode_iff_spells Text.Base32.alphabet_lawful

namespace Content

/-- Bytes are of the type of a field: there are as many as its values have, and for a public key
they are those of a point. -/
def Admits : Content → List UInt8 → Prop
  | .bytes, _ => True
  | .octets, raw | .seed, raw | .boxKey, raw => raw.length = 32
  | .signature, raw => raw.length = 64
  | .publicKey, raw =>
    ∃ encoded : Octets 32, encoded.toList = raw ∧
      (Edwards.Point.decompress? encoded).isSome = true

variable {content : Content} {encoding : Encoding} {text raw : List UInt8}
  {value : content.Value}

/-- A value is determined by its bytes. -/
theorem toBytes_inj {first second : content.Value} :
    content.toBytes first = content.toBytes second ↔ first = second := by
  cases content with
  | bytes => exact Iff.rfl
  | octets => exact Octets.toList_inj
  | publicKey => simp [toBytes]
  | boxKey => simp [toBytes]
  | seed => cases first; cases second; simp [toBytes]
  | signature => cases first; cases second; simp [toBytes]

/-- The bytes of a value that stands for bytes are those bytes. -/
theorem toBytes_of_ofBytes? (read : content.ofBytes? raw = some value) :
    content.toBytes value = raw := by
  cases content with
  | bytes => exact (Option.some.inj read).symm
  | octets => exact (Octets.ofList?_eq_some_iff.mp read).symm
  | publicKey =>
    simp only [ofBytes?, Ed25519.PublicKey.ofBytes?, bind, Option.bind_eq_some_iff] at read
    obtain ⟨encoded, whole, -, -, same⟩ := read
    cases same
    exact (Octets.ofList?_eq_some_iff.mp whole).symm
  | seed | signature | boxKey =>
    obtain ⟨encoded, whole, rfl⟩ := Option.map_eq_some_iff.mp read
    exact (Octets.ofList?_eq_some_iff.mp whole).symm

/-- Bytes stand for a value of a type exactly if they are of that type. -/
theorem isSome_ofBytes?_iff : (content.ofBytes? raw).isSome = true ↔ content.Admits raw := by
  have fixed (size : Nat) : (Octets.ofList? size raw).isSome = true ↔ raw.length = size := by
    unfold Octets.ofList?
    split <;> simp_all
  cases content with
  | bytes => simp [ofBytes?, Admits]
  | octets => exact fixed 32
  | publicKey =>
    rw [Admits, Option.isSome_iff_exists]
    simp only [ofBytes?, Ed25519.PublicKey.ofBytes?, bind, Option.bind_eq_some_iff]
    constructor
    · rintro ⟨key, encoded, whole, point, found, -⟩
      exact ⟨encoded, (Octets.ofList?_eq_some_iff.mp whole).symm, by rw [found, Option.isSome_some]⟩
    · rintro ⟨encoded, rfl, isPoint⟩
      obtain ⟨point, found⟩ := Option.isSome_iff_exists.mp isPoint
      exact ⟨⟨encoded⟩, encoded, Octets.ofList?_eq_some_iff.mpr rfl, point, found, rfl⟩
  | seed => rw [ofBytes?, Option.isSome_map]; exact fixed 32
  | signature => rw [ofBytes?, Option.isSome_map]; exact fixed 64
  | boxKey => rw [ofBytes?, Option.isSome_map]; exact fixed 32

/-- Bytes stand for a value exactly if they are its bytes and of its type. -/
theorem ofBytes?_eq_some_iff :
    content.ofBytes? raw = some value ↔
      content.Admits (content.toBytes value) ∧ content.toBytes value = raw := by
  constructor
  · intro read
    have same := toBytes_of_ofBytes? read
    refine ⟨isSome_ofBytes?_iff.mp ?_, same⟩
    rw [same, read, Option.isSome_some]
  · rintro ⟨admits, rfl⟩
    obtain ⟨found, read⟩ := Option.isSome_iff_exists.mp (isSome_ofBytes?_iff.mpr admits)
    rw [read, toBytes_inj.mp (toBytes_of_ofBytes? read)]

/-- A value is decoded exactly from the texts of its bytes. -/
theorem decode_eq_ok_iff :
    content.decode encoding text = .ok value ↔
      content.Admits (content.toBytes value) ∧
        encoding.decode text = .ok (content.toBytes value) := by
  unfold decode
  cases encoding.decode text with
  | error fault => simp
  | ok raw =>
    have same : (Except.ok raw : Except Text.Fault (List UInt8)) = .ok (content.toBytes value) ↔
        content.toBytes value = raw := by
      rw [Except.ok.injEq, eq_comm]
    rw [same, ← ofBytes?_eq_some_iff]
    cases read : content.ofBytes? raw <;> simp [read]

/-- A text is refused with a number of bytes exactly if it is a text of so many bytes that are not
of the type. -/
theorem decode_eq_bytes_iff {count : Nat} :
    content.decode encoding text = .error (.bytes count) ↔
      ∃ raw, encoding.decode text = .ok raw ∧ ¬content.Admits raw ∧ raw.length = count := by
  unfold decode
  cases encoding.decode text with
  | error fault => simp
  | ok raw =>
    simp only [← isSome_ofBytes?_iff]
    cases read : content.ofBytes? raw <;> simp [read]

/-- In base32 a value is read exactly from the text it is written as. -/
theorem decode_base32_eq_ok_iff :
    content.decode .base32 text = .ok value ↔
      content.Admits (content.toBytes value) ∧ text = content.encode .base32 value := by
  rw [decode_eq_ok_iff]
  exact and_congr_right fun _ => Text.Base32.decode_eq_ok_iff

/-- In base64 a value is read exactly from the texts that are put together from texts of byte
strings which, one after another, are its bytes. -/
theorem decode_base64_eq_ok_iff :
    content.decode .base64 text = .ok value ↔
      content.Admits (content.toBytes value) ∧ ∃ pieces : List (List UInt8),
        text = pieces.flatMap Text.Base64.encode ∧ pieces.flatten = content.toBytes value := by
  rw [decode_eq_ok_iff]
  exact and_congr_right fun _ => Text.Base64.decode_eq_ok_iff

/-- The texts of byte strings put together are ASCII. -/
theorem lt_of_mem_flatMap_encode {pieces : List (List UInt8)} :
    ∀ character ∈ pieces.flatMap Text.Base64.encode, character < 0x80 := by
  intro character inside
  obtain ⟨piece, -, inside⟩ := List.mem_flatMap.mp inside
  exact Text.Base64.lt_of_mem_encode character inside

/-- A text is made of some ASCII characters exactly if these are its bytes. -/
theorem eq_ofAscii_iff {text : String} {characters : List UInt8}
    (ascii : ∀ character ∈ characters, character < 0x80) :
    text = Text.ofAscii characters ↔ Text.utf8 text = characters := by
  rw [← Text.utf8_inj, Text.utf8_ofAscii ascii]

/-- A binary field in base32 reads a text as a value exactly if the text is the one that the value
is written as. In base64 it reads the text that a value is written as, and it reads a text as a
value exactly if the text is put together from the texts of byte strings which, one after another,
are the bytes of the value. Either way it refuses a text of bytes that are not of its type with
their number. The text of a byte string is the only one that spells it: its characters are of the
alphabet, filled by signs only in base64, and the bits behind the last byte are fewer than those of
a character and all zero. -/
theorem field_texts_exact (content : Content) :
    let read (encoding : Encoding) (text : String) :=
      Scalar.ofFound (.binary encoding content) (.text text)
    (∀ (text : String) (value : content.Value), read .base32 text = .ok value ↔
      content.Admits (content.toBytes value) ∧
        text = Text.ofAscii (content.encode .base32 value)) ∧
    (∀ value : content.Value, content.Admits (content.toBytes value) →
      read .base64 (Text.ofAscii (content.encode .base64 value)) = .ok value) ∧
    (∀ (text : String) (value : content.Value), read .base64 text = .ok value ↔
      content.Admits (content.toBytes value) ∧ ∃ pieces : List (List UInt8),
        text = Text.ofAscii (pieces.flatMap Text.Base64.encode) ∧
          pieces.flatten = content.toBytes value) ∧
    (∀ encoding text count, read encoding text = .error (.bytes count) ↔
      ∃ raw, encoding.decode (Text.utf8 text) = .ok raw ∧ ¬content.Admits raw ∧
        raw.length = count) ∧
    (∀ (encoding : Encoding) (text raw : List UInt8),
      text = encoding.encode raw ↔ encoding.Spells text raw) := by
  intro read
  refine ⟨fun text value => ?_, fun value admits => ?_, fun text value => ?_,
    fun encoding text count => decode_eq_bytes_iff,
    fun encoding text raw => encoding.eq_encode_iff_spells⟩
  · have ascii : ∀ character ∈ content.encode .base32 value, character < 0x80 :=
      Encoding.lt_of_mem_encode .base32
    rw [eq_ofAscii_iff ascii]
    exact decode_base32_eq_ok_iff
  · show content.decode .base64 (Text.utf8 (Text.ofAscii (content.encode .base64 value))) = _
    rw [utf8_ofAscii_encode, decode_eq_ok_iff]
    exact ⟨admits, Encoding.decode_encode .base64 (content.toBytes value)⟩
  · simp only [eq_ofAscii_iff lt_of_mem_flatMap_encode]
    exact decode_base64_eq_ok_iff

/-- A field for public keys reads the texts of a key in both encodings, and in base64 the text of
its first byte in front of that of the others; it refuses the text of 31 bytes. -/
theorem field_texts_of_public_key :
    let key : Ed25519.PublicKey := ⟨.ofNat 32 1⟩
    let others : List UInt8 := List.replicate 31 0
    let read (encoding : Encoding) (text : String) :=
      Scalar.ofFound (.binary encoding .publicKey) (.text text)
    Content.publicKey.Admits key.octets.toList ∧
    read .base32 (Text.ofAscii (Text.Base32.encode key.octets.toList)) = .ok key ∧
    read .base64 (Text.ofAscii (Text.Base64.encode key.octets.toList)) = .ok key ∧
    read .base64 (Text.ofAscii (Text.Base64.encode [1] ++ Text.Base64.encode others)) = .ok key ∧
    read .base32 (Text.ofAscii (Text.Base32.encode others)) = .error (.bytes 31) := by
  intro key others read
  have admits : Content.publicKey.Admits key.octets.toList :=
    ⟨key.octets, rfl, by decide +kernel⟩
  obtain ⟨base32, comesBack, base64, refuses, -⟩ := field_texts_exact .publicKey
  have joined := (base64 _ key).mpr ⟨admits, [[1], others], rfl, by decide⟩
  rw [List.flatMap_cons, List.flatMap_cons, List.flatMap_nil, List.append_nil] at joined
  have short : ¬Content.publicKey.Admits others := by
    rintro ⟨encoded, same, -⟩
    have length := encoded.length_eq
    rw [same, List.length_replicate] at length
    omega
  have isText : Encoding.base32.decode
      (Text.utf8 (Text.ofAscii (Text.Base32.encode others))) = .ok others := by
    rw [Text.utf8_ofAscii Text.Base32.lt_of_mem_encode]
    exact Text.Base32.decode_encode others
  exact ⟨admits, (base32 _ key).mpr ⟨admits, rfl⟩, comesBack key admits, joined,
    (refuses .base32 _ 31).mpr ⟨others, isText, short, rfl⟩⟩

end Content

end RoundKey.Data
