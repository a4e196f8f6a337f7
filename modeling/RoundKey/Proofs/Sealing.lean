import RoundKey.Proofs.Crypto.Montgomery
import RoundKey.Proofs.Envelope

/-!
# Opening inverts sealing

A sealed key opens to a message exactly if its box is what the message is sealed in under the key
that its box key and the secret agree on, so no two boxes open to one message. Every other box is
refused as broken, and what has no box key is refused for its length. Since both sides of an
exchange agree, what was sealed to the public key of a secret opens under that secret.
-/
namespace RoundKey.Envelope

variable {secret : Montgomery.Secret} {sender : Montgomery.PublicKey}
  {sealedKey box message : List UInt8}

/-- A box key in front of a box opens to the message that is sealed in the box. -/
theorem opens_append_iff :
    Opens secret (sender.octets.toList ++ box) message ↔
      box = Box.sealUnder (Box.sharedKey secret sender) (Octets.zero 24) message := by
  constructor
  · rintro ⟨sender', box', same, opened⟩
    have sameLength : sender.octets.toList.length = sender'.octets.toList.length := by
      rw [sender.octets.length_eq, sender'.octets.length_eq]
    obtain ⟨front, rfl⟩ := List.append_inj same sameLength
    obtain rfl := Montgomery.PublicKey.octets_inj.mp (Octets.toList_inj.mp front)
    exact Box.openUnder_eq_some_iff.mp opened
  · rintro rfl
    exact ⟨sender, _, rfl, Box.openUnder_sealUnder _ _ message⟩

/-- What was sealed to the public key of a secret opens under that secret. -/
theorem opens_sealTo (sender secret : Montgomery.Secret) (message : List UInt8) :
    Opens secret (sealTo sender secret.publicKey message) message := by
  have shared : Box.sharedKey sender secret.publicKey = Box.sharedKey secret sender.publicKey := by
    rw [Box.sharedKey, Box.sharedKey, Montgomery.agree_comm]
  rw [sealTo, shared]
  exact opens_append_iff.mpr rfl

/-- Without 32 bytes there is no box key to open a box with. -/
theorem openSealed_of_short (short : sealedKey.length < 32) :
    openSealed secret sealedKey = .error (.noBoxKey sealedKey.length) := by
  have front : (sealedKey.take 32).length ≠ 32 := by
    rw [List.length_take]
    omega
  rw [openSealed, Octets.ofList?, dif_neg front]

/-- Behind a box key, a box is broken exactly if no message is sealed in it. -/
theorem openSealed_append_eq_brokenBox_iff :
    openSealed secret (sender.octets.toList ++ box) = .error .brokenBox ↔
      ∀ message, box ≠ Box.sealUnder (Box.sharedKey secret sender) (Octets.zero 24) message := by
  constructor
  · intro broken message same
    rw [openSealed_eq_ok_iff.mpr (opens_append_iff.mpr same)] at broken
    contradiction
  · intro unsealed
    apply openSealed_eq_brokenBox
    · rw [List.length_append, sender.octets.length_eq]
      omega
    · exact fun message opens => unsealed message (opens_append_iff.mp opens)

/-- Nothing is sealed in a box without room for a tag. -/
theorem ne_sealUnder_of_short {key : Octets 32} {nonce : Octets 24} (short : box.length < 16) :
    box ≠ Box.sealUnder key nonce message := by
  rintro rfl
  have long := (Box.seals_iff.mpr (rfl : Box.sealUnder key nonce message = _)).length_eq
  omega

/-- Renaming refusals keeps what opens. -/
theorem mapError_openSealed_eq_ok_iff :
    (openSealed secret sealedKey).mapError Refusal.error = .ok message ↔
      openSealed secret sealedKey = .ok message := by
  cases openSealed secret sealedKey with
  | error refusal => exact iff_of_false nofun nofun
  | ok opened => constructor <;> rintro ⟨⟩ <;> rfl

/-- Behind a box key, a box opens to a message exactly if it is what the message is sealed in under
the key that the box key and the secret agree on, byte by byte: a tag, then the message combined
with the stream. So it is longer than the message by sixteen bytes, no other box opens to the
message, and every box that seals nothing, such as one without room for a tag, fails to decrypt.
Without a box key it is the length that is reported. And what a server with any secret seals to the
public key of this secret opens to what was sealed. -/
theorem opening_inverts_sealing (secret : Montgomery.Secret) :
    let opened (sealedKey : List UInt8) : Except ClientError (List UInt8) :=
      (openSealed secret sealedKey).mapError Refusal.error
    (∀ (sender : Montgomery.PublicKey) (box message : List UInt8),
      let shared := Box.sharedKey secret sender
      let sealedKey := sender.octets.toList ++ box
      (opened sealedKey = .ok message ↔
        box = Box.sealUnder shared (Octets.zero 24) message) ∧
      (opened sealedKey = .ok message ↔ Box.Seals shared (Octets.zero 24) message box) ∧
      (opened sealedKey = .ok message →
        16 ≤ box.length ∧ message.length = box.length - 16 ∧
          ∀ other, opened (sender.octets.toList ++ other) = .ok message → other = box) ∧
      (opened sealedKey = .error .decryptionFailed ↔
        ∀ message, ¬Box.Seals shared (Octets.zero 24) message box) ∧
      (box.length < 16 → opened sealedKey = .error .decryptionFailed)) ∧
    (∀ sealedKey : List UInt8, sealedKey.length < 32 →
      opened sealedKey = .error (.shortCiphertext sealedKey.length)) ∧
    (∀ (server : Montgomery.Secret) (message : List UInt8),
      opened (sealTo server secret.publicKey message) = .ok message) := by
  intro opened
  refine ⟨fun sender box message => ?_, fun sealedKey short => ?_, fun server message => ?_⟩
  · intro shared sealedKey
    have opens (box message : List UInt8) : opened (sender.octets.toList ++ box) = .ok message ↔
        box = Box.sealUnder shared (Octets.zero 24) message := by
      rw [mapError_openSealed_eq_ok_iff, openSealed_eq_ok_iff, opens_append_iff]
    have seals (box message : List UInt8) : opened (sender.octets.toList ++ box) = .ok message ↔
        Box.Seals shared (Octets.zero 24) message box := by
      rw [opens, Box.seals_iff]
    have fails (unsealed : ∀ message, box ≠ Box.sealUnder shared (Octets.zero 24) message) :
        opened sealedKey = .error .decryptionFailed := by
      show (openSealed secret sealedKey).mapError Refusal.error = _
      rw [openSealed_append_eq_brokenBox_iff.mpr unsealed]
      rfl
    refine ⟨opens box message, seals box message, fun succeeded => ?_, ⟨?_, ?_⟩, fun short => ?_⟩
    · have length := ((seals box message).mp succeeded).length_eq
      refine ⟨by omega, by omega, fun other succeeded' => ?_⟩
      rw [(opens other message).mp succeeded', ← (opens box message).mp succeeded]
    · intro failed message isSealed
      rw [(seals box message).mpr isSealed] at failed
      contradiction
    · intro unsealed
      exact fails fun message same => unsealed message (Box.seals_iff.mpr same)
    · exact fails fun message => ne_sealUnder_of_short short
  · show (openSealed secret sealedKey).mapError Refusal.error = _
    rw [openSealed_of_short short]
    rfl
  · exact mapError_openSealed_eq_ok_iff.mpr
      (openSealed_eq_ok_iff.mpr (opens_sealTo server secret message))

/-- What is sealed to the public key of a secret opens to nothing, and to a message longer than two
blocks; a box of fifteen bytes fails to decrypt, and 31 bytes are too short. -/
theorem opening_of_two_messages :
    let secret : Montgomery.Secret := ⟨.ofNat 32 5⟩
    let server : Montgomery.Secret := ⟨.ofNat 32 3⟩
    let long : List UInt8 := List.replicate 131 0xff
    let opened (sealedKey : List UInt8) : Except ClientError (List UInt8) :=
      (openSealed secret sealedKey).mapError Refusal.error
    opened (sealTo server secret.publicKey []) = .ok [] ∧
    opened (sealTo server secret.publicKey long) = .ok long ∧
    opened (server.publicKey.octets.toList ++ List.replicate 15 0) = .error .decryptionFailed ∧
    opened (List.replicate 31 0) = .error (.shortCiphertext 31) := by
  intro secret server long opened
  obtain ⟨boxes, noBoxKey, comesBack⟩ := opening_inverts_sealing secret
  obtain ⟨-, -, -, -, noTag⟩ := boxes server.publicKey (List.replicate 15 0) []
  exact ⟨comesBack server [], comesBack server long, noTag (by simp),
    noBoxKey (List.replicate 31 0) (by simp)⟩

end RoundKey.Envelope
