import RoundKey.Message
import RoundKey.Proofs.Json.Record

/-!
# Reading back messages

The document of a message, plain or signed, is read as that message, whatever its texts and byte
strings are. The only messages without a document are those that carry a public signing key that
is the bytes of no point. So every field and the signature arrive byte for byte, and what was
signed before a message was written is what is verified after it was read.
-/
namespace RoundKey

open RoundKey.Data

/-- The document of a plain message is read as that message, if its fields have names of their own
and the values are valid. -/
theorem Message.read_write {M : Type} [Message M] (message : M)
    (distinct : ((schema M).fields.map Field.name).Nodup)
    (valid : (toValues message).All Scalar.IsValid) : read (write message) = .ok message := by
  have whole := Json.whole_of_read (Json.readRecord_writeRecord distinct valid)
  rw [Message.read, Message.write, whole, Except.map, ofValues_toValues]

/-- The document of a signed message is read as that message, if the fields and the signature have
names of their own and the values are valid. -/
theorem Signed.read_write {M : Type} [Signable M] (signed : Signed M)
    (distinct : (Json.signatureName :: (Message.schema M).fields.map Field.name).Nodup)
    (valid : (Message.toValues signed.body).All Scalar.IsValid) :
    Signed.read signed.write = .ok signed := by
  have whole := Json.whole_of_read (Json.readSigned_writeSigned distinct valid signed.signature)
  rw [Signed.read, Signed.write, whole, Except.map, Message.ofValues_toValues]

/-- A registration is read back, if its login key is the bytes of a point. -/
theorem RegisterRequest.read_write (request : RegisterRequest)
    (loginPoint : request.loginKey.point?.isSome = true) :
    Message.read (Message.write request) = .ok request := by
  apply Message.read_write request (by decide)
  exact ⟨trivial, Content.isValid_publicKey.mpr loginPoint, trivial⟩

/-- A proof of ownership is read back. -/
theorem VerifyRequest.read_write (request : Signed VerifyRequest) :
    Signed.read request.write = .ok request := by
  apply Signed.read_write request (by decide)
  exact ⟨trivial, rfl, trivial⟩

/-- A question is read back, if the key of the server is the bytes of a point. -/
theorem StatusRequest.read_write (request : Signed StatusRequest)
    (serverPoint : request.body.serverKey.point?.isSome = true) :
    Signed.read request.write = .ok request := by
  have octets : Content.octets ≠ .publicKey := by decide
  apply Signed.read_write request (by decide)
  exact ⟨trivial, Content.isValid_publicKey.mpr serverPoint,
    Content.isValid_of_ne_publicKey octets request.body.nonce, trivial⟩

/-- A request for a key is read back, if its public signing keys are the bytes of points. -/
theorem ExtractRequest.read_write (request : Signed ExtractRequest)
    (longTermPoint : request.body.longTermKey.point?.isSome = true)
    (serverPoint : request.body.serverKey.point?.isSome = true) :
    Signed.read request.write = .ok request := by
  have boxKey : Content.boxKey ≠ .publicKey := by decide
  apply Signed.read_write request (by decide)
  exact ⟨trivial, trivial, Content.isValid_of_ne_publicKey boxKey request.body.returnKey,
    Content.isValid_publicKey.mpr longTermPoint, Content.isValid_publicKey.mpr serverPoint,
    trivial⟩

/-- A reply that carries a key is read back. -/
theorem ExtractReply.read_write (reply : Signed ExtractReply) :
    Signed.read reply.write = .ok reply := by
  apply Signed.read_write reply (by decide)
  exact ⟨trivial, trivial, rfl, rfl, trivial⟩

/-- A signed message comes back from its document as it was: with the same value in every field and
the same signature, hence with the same canonical bytes and the same verification result under
every key. -/
def Signed.ComesBack {M : Type} [Signable M] (signed : Signed M) : Prop :=
  ∃ arrived : Signed M, Signed.read signed.write = .ok arrived ∧ arrived = signed ∧
    canonical arrived.body = canonical signed.body ∧
    ∀ key, arrived.verifies key = signed.verifies key

/-- What is read of a document comes back. -/
theorem Signed.comesBack_of_read {M : Type} [Signable M] {signed : Signed M}
    (read : Signed.read signed.write = .ok signed) : signed.ComesBack :=
  ⟨signed, read, rfl, rfl, fun _ => rfl⟩

/-- Every message comes back from its document as it was, for every username and round, all byte
strings, box keys and signatures, and all public signing keys that are the bytes of points, of
whatever form. -/
theorem Message.every_message_comes_back :
    (∀ request : RegisterRequest, request.loginKey.point?.isSome = true →
      Message.read (Message.write request) = .ok request) ∧
    (∀ request : Signed VerifyRequest, request.ComesBack) ∧
    (∀ request : Signed StatusRequest, request.body.serverKey.point?.isSome = true →
      request.ComesBack) ∧
    (∀ request : Signed ExtractRequest, request.body.longTermKey.point?.isSome = true →
      request.body.serverKey.point?.isSome = true → request.ComesBack) ∧
    (∀ reply : Signed ExtractReply, reply.ComesBack) := by
  refine ⟨RegisterRequest.read_write, fun request => ?_, fun request serverPoint => ?_,
    fun request longTermPoint serverPoint => ?_, fun reply => ?_⟩
  · exact Signed.comesBack_of_read (VerifyRequest.read_write request)
  · exact Signed.comesBack_of_read (StatusRequest.read_write request serverPoint)
  · exact Signed.comesBack_of_read
      (ExtractRequest.read_write request longTermPoint serverPoint)
  · exact Signed.comesBack_of_read (ExtractReply.read_write reply)

/-- Messages come back with quotes, backslashes, controls and letters beyond ASCII in the username,
with byte strings of every residue of their length, and with a key whose bytes are one more than
the field size, so that its point has shorter bytes too. -/
theorem Message.unusual_messages_come_back :
    let username := "zoë \"z\" \\ \t\x01\r\n\x7f"
    let longForm : Ed25519.PublicKey := ⟨.ofNat 32 (Edwards.fieldSize + 1)⟩
    let signature : Ed25519.Signature := ⟨.ofNat 64 7⟩
    let register : RegisterRequest := ⟨username, longForm⟩
    let verify (length : Nat) : Signed VerifyRequest :=
      ⟨⟨username, List.replicate length 0xff⟩, signature⟩
    let status : Signed StatusRequest := ⟨⟨username, longForm, .zero 32⟩, signature⟩
    let extract : Signed ExtractRequest :=
      ⟨⟨4294967295, username, ⟨.zero 32⟩, longForm, longForm⟩, signature⟩
    longForm.point?.isSome = true ∧
    Message.read (Message.write register) = .ok register ∧ (verify 0).ComesBack ∧
    (verify 1).ComesBack ∧ (verify 2).ComesBack ∧ status.ComesBack ∧ extract.ComesBack := by
  intro username longForm signature register verify status extract
  have isPoint : longForm.point?.isSome = true := by decide +kernel
  obtain ⟨registers, verifies, asks, extracts, -⟩ := Message.every_message_comes_back
  exact ⟨isPoint, registers register isPoint, verifies _, verifies _, verifies _,
    asks status isPoint, extracts extract isPoint isPoint⟩

end RoundKey
