import RoundKey.Envelope
import RoundKey.Proofs.Crypto.Box

/-!
# How a reply is taken or refused

A reply is taken exactly if it passes every check, opens and decodes, and it is refused for the
first of these that fails. Both sides are given as conditions on the reply alone, without the
checks that decide them; they exclude each other and one of them always holds.
-/
namespace RoundKey

open Pairing

variable {secret : Montgomery.Secret} {request : ExtractRequest} {reply : Signed ExtractReply}
  {key : Ed25519.PublicKey}

/-- Key material has the length of its coordinate field. -/
theorem KeyMaterial.length_of_ofBytes {F : Type} [Coordinate F] [DecidableEq F]
    {bytes : List UInt8} {material : KeyMaterial F} (read : ofBytes bytes = .ok material) :
    bytes.length = Coordinate.width F := by
  unfold ofBytes at read
  split at read
  · assumption
  · contradiction

/-- Bytes that are read as key material stand for some. -/
theorem KeyMaterial.exists_ofBytes_eq {F : Type} [Coordinate F] [DecidableEq F]
    {bytes : List UInt8} (isOk : (ofBytes (F := F) bytes).isOk = true) :
    ∃ material : KeyMaterial F, ofBytes bytes = .ok material := by
  cases read : ofBytes (F := F) bytes with
  | ok material => exact ⟨material, rfl⟩
  | error fault => rw [read] at isOk; contradiction

namespace Envelope

/-- A reply is for a round and a username, long enough to hold a box, and signed by the server. -/
structure Answers (request : ExtractRequest) (reply : Signed ExtractReply)
    (key : Ed25519.PublicKey) : Prop where
  /-- It is for the round of the request. -/
  round : reply.body.round = request.round
  /-- It is for the username of the request. -/
  username : reply.body.username = request.username
  /-- Its sealed key has a box key and a tag. -/
  long : 48 ≤ reply.body.sealedKey.length
  /-- Its signature verifies strictly over its canonical bytes. -/
  isSigned : Ed25519.verifyStrict (canonical reply.body) reply.signature key = true

/-- A sealed key is a box key, then a box that opens to a message under the zero nonce. -/
def Opens (secret : Montgomery.Secret) (sealedKey message : List UInt8) : Prop :=
  ∃ (sender : Montgomery.PublicKey) (box : List UInt8),
    sealedKey = sender.octets.toList ++ box ∧
      Box.openUnder (Box.sharedKey secret sender) (Octets.zero 24) box = some message

/-- A reply is refused for the first thing that is wrong with it. -/
inductive Refuses (secret : Montgomery.Secret) (request : ExtractRequest)
    (reply : Signed ExtractReply) (key : Ed25519.PublicKey) : Refusal → Prop where
  /-- It is for another round, whatever else is wrong. -/
  | wrongRound (round : reply.body.round ≠ request.round) :
    Refuses secret request reply key (.wrongRound request.round reply.body.round)
  /-- It is for the round and another username. -/
  | wrongUsername (round : reply.body.round = request.round)
    (username : reply.body.username ≠ request.username) :
    Refuses secret request reply key (.wrongUsername request.username reply.body.username)
  /-- It is for the round and the username, and too short. -/
  | shortCiphertext (round : reply.body.round = request.round)
    (username : reply.body.username = request.username)
    (short : reply.body.sealedKey.length < 48) :
    Refuses secret request reply key (.shortCiphertext reply.body.sealedKey.length)
  /-- It would do, but for its signature. -/
  | invalidSignature (round : reply.body.round = request.round)
    (username : reply.body.username = request.username)
    (long : 48 ≤ reply.body.sealedKey.length)
    (isUnsigned : Ed25519.verifyStrict (canonical reply.body) reply.signature key = false) :
    Refuses secret request reply key .invalidSignature
  /-- It passes every check, and its box opens to nothing. -/
  | brokenBox (answers : Answers request reply key)
    (broken : ∀ message, ¬Opens secret reply.body.sealedKey message) :
    Refuses secret request reply key .brokenBox
  /-- Its box opens to something that is no key. -/
  | malformedKey {message : List UInt8} {fault : KeyMaterialFault}
    (answers : Answers request reply key) (opens : Opens secret reply.body.sealedKey message)
    (malformed : KeyMaterial.ofBytes (F := Base) message = .error fault) :
    Refuses secret request reply key (.malformedKey fault)
  /-- Its box holds a key, and its attestation is no point. -/
  | malformedAttestation {message : List UInt8} {material : IdentityKey}
    {fault : KeyMaterialFault} (answers : Answers request reply key)
    (opens : Opens secret reply.body.sealedKey message)
    (read : KeyMaterial.ofBytes message = .ok material)
    (malformed : KeyMaterial.ofBytes (F := Extension) reply.body.identitySignature = .error fault) :
    Refuses secret request reply key (.malformedAttestation fault)

/-- A reply gives the key in its box and the attestation beside it. -/
structure Extracts (secret : Montgomery.Secret) (request : ExtractRequest)
    (reply : Signed ExtractReply) (key : Ed25519.PublicKey) (extracted : ExtractedKey) : Prop where
  /-- It passes every check. -/
  answers : Answers request reply key
  /-- Its box opens to the key. -/
  key : ∃ message, Opens secret reply.body.sealedKey message ∧
    KeyMaterial.ofBytes message = .ok extracted.key
  /-- Its attestation is a point. -/
  attestation : KeyMaterial.ofBytes reply.body.identitySignature = .ok extracted.attestation

/-- Opening gives exactly what a sealed key opens to. -/
theorem openSealed_eq_ok_iff {sealedKey message : List UInt8} :
    openSealed secret sealedKey = .ok message ↔ Opens secret sealedKey message := by
  constructor
  · intro opened
    unfold openSealed at opened
    split at opened
    · contradiction
    · next sender front =>
      split at opened
      · contradiction
      · next found inside =>
        cases opened
        refine ⟨⟨sender⟩, sealedKey.drop 32, ?_, inside⟩
        rw [← Octets.ofList?_eq_some_iff.mp front, List.take_append_drop]
  · rintro ⟨sender, box, rfl, inside⟩
    have front : (sender.octets.toList ++ box).take 32 = sender.octets.toList :=
      List.take_left' sender.octets.length_eq
    have back : (sender.octets.toList ++ box).drop 32 = box :=
      List.drop_left' sender.octets.length_eq
    rw [openSealed, front, back, Octets.ofList?_eq_some_iff.mpr rfl]
    simp only [nonce, inside]

/-- Opening fails with a broken box if a sealed key with a box key opens to nothing. -/
theorem openSealed_eq_brokenBox {sealedKey : List UInt8} (long : 32 ≤ sealedKey.length)
    (broken : ∀ message, ¬Opens secret sealedKey message) :
    openSealed secret sealedKey = .error .brokenBox := by
  have front : (sealedKey.take 32).length = 32 := List.length_take_of_le long
  cases opened : openSealed secret sealedKey with
  | ok message => exact absurd (openSealed_eq_ok_iff.mp opened) (broken message)
  | error refusal =>
    unfold openSealed at opened
    rw [Octets.ofList?, dif_pos front] at opened
    split at opened
    · contradiction
    · split at opened <;> simp_all

/-- A box that opens is longer than its message by the box key and the tag. -/
theorem Opens.length_eq {sealedKey message : List UInt8} (opens : Opens secret sealedKey message) :
    sealedKey.length = message.length + 48 := by
  obtain ⟨sender, box, rfl, inside⟩ := opens
  have boxLength := Box.length_of_openUnder inside
  rw [Box.overhead] at boxLength
  rw [List.length_append, sender.octets.length_eq]
  omega

/-- A reply passes the checks if it answers the request. -/
theorem checkReply_of_answers (answers : Answers request reply key) :
    checkReply request reply key = .ok () := by
  have long : ¬reply.body.sealedKey.length < leastLength := Nat.not_lt.mpr answers.long
  have verifies : reply.verifies key = true := answers.isSigned
  simp only [checkReply, answers.round, answers.username, long, verifies, ne_eq, not_true_eq_false,
    ↓reduceIte]

/-- A reply that extracts a key gives that key. -/
theorem Extracts.extract_eq {extracted : ExtractedKey}
    (extracts : Extracts secret request reply key extracted) :
    extract secret request reply key = .ok extracted := by
  obtain ⟨message, opens, read⟩ := extracts.key
  simp only [extract, checkReply_of_answers extracts.answers, openSealed_eq_ok_iff.mpr opens,
    decode, read, extracts.attestation]

/-- A reply that is refused gives that refusal. -/
theorem Refuses.extract_eq {refusal : Refusal}
    (refuses : Refuses secret request reply key refusal) :
    extract secret request reply key = .error refusal := by
  cases refuses with
  | wrongRound round => simp only [extract, checkReply, if_pos round]
  | wrongUsername round username =>
    simp only [extract, checkReply, round, ne_eq, not_true_eq_false, ↓reduceIte, if_pos username]
  | shortCiphertext round username short =>
    have short : reply.body.sealedKey.length < leastLength := short
    simp only [extract, checkReply, round, username, ne_eq, not_true_eq_false, ↓reduceIte, short]
  | invalidSignature round username long isUnsigned =>
    have long : ¬reply.body.sealedKey.length < leastLength := Nat.not_lt.mpr long
    have verifies : reply.verifies key = false := isUnsigned
    simp only [extract, checkReply, round, username, ne_eq, not_true_eq_false, ↓reduceIte, long,
      verifies, Bool.false_eq_true]
  | brokenBox answers broken =>
    have long : 32 ≤ reply.body.sealedKey.length := Nat.le_trans (by decide) answers.long
    simp only [extract, checkReply_of_answers answers, openSealed_eq_brokenBox long broken]
  | malformedKey answers opens malformed =>
    simp only [extract, checkReply_of_answers answers, openSealed_eq_ok_iff.mpr opens, decode,
      malformed]
  | malformedAttestation answers opens read malformed =>
    simp only [extract, checkReply_of_answers answers, openSealed_eq_ok_iff.mpr opens, decode,
      read, malformed]

/-- A reply whose signature verifies is not refused for its signature. -/
theorem Refuses.error_ne_invalidSignature {refusal : Refusal}
    (refuses : Refuses secret request reply key refusal) (verifies : reply.verifies key = true) :
    refusal.error ≠ .invalidSignature := by
  cases refuses with
  | invalidSignature round username long isUnsigned =>
    exact absurd (isUnsigned.symm.trans verifies) Bool.false_ne_true
  | wrongRound | wrongUsername | shortCiphertext | brokenBox | malformedKey
  | malformedAttestation => simp [Refusal.error]

/-- Every reply gives a key or is refused. -/
theorem extracts_or_refuses (secret : Montgomery.Secret) (request : ExtractRequest)
    (reply : Signed ExtractReply) (key : Ed25519.PublicKey) :
    (∃ extracted, Extracts secret request reply key extracted) ∨
      ∃ refusal, Refuses secret request reply key refusal := by
  by_cases round : reply.body.round = request.round
  case neg => exact .inr ⟨_, .wrongRound round⟩
  by_cases username : reply.body.username = request.username
  case neg => exact .inr ⟨_, .wrongUsername round username⟩
  by_cases long : 48 ≤ reply.body.sealedKey.length
  case neg => exact .inr ⟨_, .shortCiphertext round username (Nat.not_le.mp long)⟩
  cases isSigned : Ed25519.verifyStrict (canonical reply.body) reply.signature key with
  | false => exact .inr ⟨_, .invalidSignature round username long isSigned⟩
  | true =>
    have answers : Answers request reply key := ⟨round, username, long, isSigned⟩
    by_cases opened : ∃ message, Opens secret reply.body.sealedKey message
    case neg => exact .inr ⟨_, .brokenBox answers (not_exists.mp opened)⟩
    obtain ⟨message, opens⟩ := opened
    cases read : KeyMaterial.ofBytes (F := Base) message with
    | error fault => exact .inr ⟨_, .malformedKey answers opens read⟩
    | ok material =>
      cases attested : KeyMaterial.ofBytes (F := Extension) reply.body.identitySignature with
      | error fault => exact .inr ⟨_, .malformedAttestation answers opens read attested⟩
      | ok attestation =>
        exact .inl ⟨⟨material, attestation⟩, answers, ⟨message, opens, read⟩, attested⟩

/-- A key is extracted exactly from the replies that give it. -/
theorem extract_eq_ok_iff {extracted : ExtractedKey} :
    extract secret request reply key = .ok extracted ↔
      Extracts secret request reply key extracted := by
  constructor
  · intro result
    rcases extracts_or_refuses secret request reply key with ⟨_, extracts⟩ | ⟨_, refuses⟩
    · cases extracts.extract_eq.symm.trans result
      exact extracts
    · cases refuses.extract_eq.symm.trans result
  · exact Extracts.extract_eq

/-- A reply is refused exactly for the first thing that is wrong with it. -/
theorem extract_eq_error_iff {refusal : Refusal} :
    extract secret request reply key = .error refusal ↔
      Refuses secret request reply key refusal := by
  constructor
  · intro result
    rcases extracts_or_refuses secret request reply key with ⟨_, extracts⟩ | ⟨_, refuses⟩
    · cases extracts.extract_eq.symm.trans result
    · cases refuses.extract_eq.symm.trans result
      exact refuses
  · exact Refuses.extract_eq

/-- A reply that gives a key has a sealed key and an attestation of 96 bytes each. -/
theorem Extracts.length_eq {extracted : ExtractedKey}
    (extracts : Extracts secret request reply key extracted) :
    reply.body.sealedKey.length = 96 ∧ reply.body.identitySignature.length = 96 := by
  obtain ⟨message, opens, read⟩ := extracts.key
  have messageLength : message.length = 48 := KeyMaterial.length_of_ofBytes read
  have sealedLength := opens.length_eq
  rw [messageLength] at sealedLength
  exact ⟨sealedLength, KeyMaterial.length_of_ofBytes extracts.attestation⟩

end Envelope

end RoundKey
