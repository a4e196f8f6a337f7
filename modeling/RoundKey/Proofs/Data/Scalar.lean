import RoundKey.Data.Scalar
import RoundKey.Proofs.Text.Encoding

/-!
# Values found where they were written

A written value is found as a text or a whole number, and is that value again. The one exception
is a public key that is the bytes of no point: the type of its field refuses it, so it is no value
of a document, and no document gives it.
-/
namespace RoundKey.Data

/-- Reading the text of a byte string gives the byte string. -/
theorem Encoding.decode_encode (encoding : Encoding) (bytes : List UInt8) :
    encoding.decode (encoding.encode bytes) = .ok bytes := by
  cases encoding with
  | base64 => exact Text.Base64.decode_encode bytes
  | base32 => exact Text.Base32.decode_encode bytes

/-- The characters of a byte string are ASCII. -/
theorem Encoding.lt_of_mem_encode (encoding : Encoding) {bytes : List UInt8} :
    ∀ character ∈ encoding.encode bytes, character < 0x80 := by
  cases encoding with
  | base64 => exact Text.Base64.lt_of_mem_encode
  | base32 => exact Text.Base32.lt_of_mem_encode

namespace Content

/-- The bytes of a value stand for it. -/
def IsValid (content : Content) (value : content.Value) : Prop :=
  content.ofBytes? (content.toBytes value) = some value

/-- A public key is valid exactly if its bytes stand for a point. -/
theorem isValid_publicKey {key : Ed25519.PublicKey} :
    IsValid .publicKey key ↔ key.point?.isSome = true := by
  have read : Octets.ofList? 32 key.octets.toList = some key.octets :=
    Octets.ofList?_eq_some_iff.mpr rfl
  simp only [IsValid, ofBytes?, toBytes, Ed25519.PublicKey.ofBytes?, read,
    Ed25519.PublicKey.point?, bind, Option.bind]
  cases Edwards.Point.decompress? key.octets <;> simp

/-- Every value but a public key is valid. -/
theorem isValid_of_ne_publicKey {content : Content} (other : content ≠ .publicKey)
    (value : content.Value) : content.IsValid value := by
  cases content with
  | publicKey => exact absurd rfl other
  | bytes => rfl
  | octets => exact Octets.ofList?_eq_some_iff.mpr rfl
  | seed => simp [IsValid, ofBytes?, toBytes, Octets.ofList?_eq_some_iff.mpr]
  | signature => simp [IsValid, ofBytes?, toBytes, Octets.ofList?_eq_some_iff.mpr]
  | boxKey => simp [IsValid, ofBytes?, toBytes, Octets.ofList?_eq_some_iff.mpr]

/-- Reading the text of a valid value gives the value. -/
theorem decode_encode (encoding : Encoding) {content : Content} {value : content.Value}
    (valid : content.IsValid value) :
    content.decode encoding (content.encode encoding value) = .ok value := by
  rw [IsValid] at valid
  simp only [decode, encode, Encoding.decode_encode, valid]

/-- The text of a value is the bytes of the characters that encode it. -/
theorem utf8_ofAscii_encode (encoding : Encoding) (content : Content) (value : content.Value) :
    Text.utf8 (Text.ofAscii (content.encode encoding value)) = content.encode encoding value :=
  Text.utf8_ofAscii encoding.lt_of_mem_encode

/-- Bytes stand only for valid values. -/
theorem isValid_of_ofBytes? {content : Content} {bytes : List UInt8}
    {value : content.Value} (read : content.ofBytes? bytes = some value) :
    content.IsValid value := by
  by_cases key : content = .publicKey
  · subst key
    simp only [ofBytes?, Ed25519.PublicKey.ofBytes?, bind, Option.bind_eq_some_iff] at read
    obtain ⟨octets, -, point, decompressed, same⟩ := read
    cases same
    exact isValid_publicKey.mpr (by rw [Ed25519.PublicKey.point?, decompressed, Option.isSome_some])
  · exact isValid_of_ne_publicKey key value

/-- Only valid values are decoded. -/
theorem isValid_of_decode {encoding : Encoding} {content : Content} {text : List UInt8}
    {value : content.Value} (decoded : content.decode encoding text = .ok value) :
    content.IsValid value := by
  unfold decode at decoded
  split at decoded
  · contradiction
  · split at decoded
    · next read =>
      cases decoded
      exact isValid_of_ofBytes? read
    · contradiction

end Content

namespace Scalar

/-- A value that its field does not refuse. -/
def IsValid : (kind : Scalar) → kind.Value → Prop
  | binary _ content, value => content.IsValid value
  | _, _ => True

/-- What is found where a value is written. -/
def shown : (kind : Scalar) → kind.Value → Found
  | text, value => .text value
  | word, value => .integer value.toNat
  | binary encoding content, value => .text (Text.ofAscii (content.encode encoding value))
  | code, value => .text value.name

/-- What is found where a valid value is written is that value. -/
theorem ofFound_shown {kind : Scalar} {value : kind.Value} (valid : kind.IsValid value) :
    kind.ofFound (kind.shown value) = .ok value := by
  cases kind with
  | text => rfl
  | word =>
    have within : (0 : Int) ≤ value.toNat ∧ (value.toNat : Int) < UInt32.size :=
      ⟨Int.natCast_nonneg _, Int.ofNat_lt.mpr value.toNat_lt⟩
    rw [shown, ofFound, toWord, if_pos within, Int.toNat_natCast, UInt32.ofNat_toNat]
  | binary encoding content =>
    rw [shown, ofFound, Content.utf8_ofAscii_encode]
    exact Content.decode_encode encoding valid
  | code => simp [shown, ofFound]

/-- Only valid values are found. -/
theorem isValid_of_ofFound {kind : Scalar} {found : Found} {value : kind.Value}
    (read : kind.ofFound found = .ok value) : kind.IsValid value := by
  cases kind with
  | text => trivial
  | word => trivial
  | code => trivial
  | binary encoding content =>
    cases found with
    | text value => exact Content.isValid_of_decode read
    | _ => contradiction

end Scalar

end RoundKey.Data
