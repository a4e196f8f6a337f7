import RoundKey.Proofs.Handshake

/-!
# What a pin accepts

A pin compares the bytes of the key that a certificate presents. It refuses the algorithms whose
keys have a structure of their own, and asks nothing else of the algorithm and nothing of the bits
that do not count, so it accepts certificates that present no Ed25519 key. The handshake signature,
which is checked with the same certificate, closes the gap: where both checks succeed, the
certificate presents exactly the pinned key.
-/
namespace RoundKey.Pin

open Certificate

variable {pin : Pin} {certificate : List UInt8}

/-- A certificate presents the pinned key: it is a key for Ed25519, and its bits all count and are
those of the pinned bytes. -/
def IsPresentedBy (pin : Pin) (certificate : List UInt8) : Prop :=
  presentedKey? certificate = some ⟨KeyAlgorithm.ed25519, ⟨0, pin.key.octets.toList⟩⟩

/-- A certificate that presents the pinned key is accepted. -/
theorem accept_of_isPresentedBy (isPresented : pin.IsPresentedBy certificate) :
    pin.accept certificate = .ok () := by
  have unstructured : KeyAlgorithm.ed25519 ∉ KeyAlgorithm.structured := by decide
  exact accept_eq_ok_iff.mpr ⟨_, isPresented, unstructured, rfl⟩

/-- What a pin answers, by the key that the certificate presents. -/
theorem accept_cases (pin : Pin) (certificate : List UInt8) :
    (presentedKey? certificate = none ∧ pin.accept certificate = .error .badEncoding) ∨
      ∃ presented, presentedKey? certificate = some presented ∧
        (presented.algorithm ∈ KeyAlgorithm.structured ∧
            pin.accept certificate = .error .badEncoding ∨
          presented.algorithm ∉ KeyAlgorithm.structured ∧
            presented.bits.bytes = pin.key.octets.toList ∧ pin.accept certificate = .ok () ∨
          presented.algorithm ∉ KeyAlgorithm.structured ∧
            presented.bits.bytes ≠ pin.key.octets.toList ∧
            pin.accept certificate = .error .otherKey) := by
  unfold accept
  cases presentedKey? certificate with
  | none => exact .inl ⟨rfl, rfl⟩
  | some presented =>
    refine .inr ⟨presented, rfl, ?_⟩
    by_cases structured : presented.algorithm ∈ KeyAlgorithm.structured
    · exact .inl ⟨structured, if_pos structured⟩
    · by_cases same : presented.bits.bytes = pin.key.octets.toList
      · exact .inr (.inl ⟨structured, same, by simp [structured, same]⟩)
      · exact .inr (.inr ⟨structured, same, by simp [structured, same]⟩)

/-- A certificate is badly encoded exactly if it cannot be read or its key has a structure of its
own. -/
theorem accept_eq_badEncoding_iff :
    pin.accept certificate = .error .badEncoding ↔
      presentedKey? certificate = none ∨ ∃ presented, presentedKey? certificate = some presented ∧
        presented.algorithm ∈ KeyAlgorithm.structured := by
  obtain ⟨unread, answer⟩ | ⟨presented, found, cases⟩ := accept_cases pin certificate
  · simp [unread, answer]
  · obtain ⟨structured, answer⟩ | ⟨structured, -, answer⟩ | ⟨structured, -, answer⟩ := cases <;>
      simp [found, structured, answer]

/-- A certificate is for another key exactly if it presents other bytes as a key without a
structure of its own. -/
theorem accept_eq_otherKey_iff :
    pin.accept certificate = .error .otherKey ↔
      ∃ presented, presentedKey? certificate = some presented ∧
        presented.algorithm ∉ KeyAlgorithm.structured ∧
        presented.bits.bytes ≠ pin.key.octets.toList := by
  obtain ⟨unread, answer⟩ | ⟨presented, found, cases⟩ := accept_cases pin certificate
  · simp [unread, answer]
  · obtain ⟨structured, answer⟩ | ⟨structured, same, answer⟩ | ⟨structured, other, answer⟩ := cases
    · simp [found, structured, answer]
    · simp [found, same, answer]
    · simp [found, structured, other, answer]

/-- A certificate that a pin accepts and a handshake signature is good for presents the pinned key:
the signature can only be checked by the method of Ed25519, whose keys are described in one way. -/
theorem isPresentedBy_of_check {version : HandshakeVersion} {code : Nat}
    {message signature : List UInt8} (accepted : pin.accept certificate = .ok ())
    (checked : Handshake.check version code message certificate signature = .ok ()) :
    pin.IsPresentedBy certificate := by
  obtain ⟨presented, found, unstructured, pinned⟩ := accept_eq_ok_iff.mp accepted
  obtain ⟨scheme, contents, info, -, read, described, method, -, isFor, -⟩ :=
    Handshake.check_eq_ok checked
  obtain ⟨bits, tag, beside, identified⟩ := presentedBits_agree read described found
  rw [isFor] at identified
  have identifier := Method.read_algorithm identified
  rw [identifier] at unstructured
  obtain rfl := Method.eq_ed25519 unstructured
  have algorithm : presented.algorithm = KeyAlgorithm.ed25519 := identifier
  rw [bits] at pinned
  have key : info.key = pin.key.octets.toList := pinned
  rw [IsPresentedBy, found, ← algorithm, ← key, ← bits]

/-- A pin accepts exactly the certificates that present the pinned bytes, whatever bits of them
count, for an algorithm whose keys have no structure of their own. Every other one it refuses, as
badly encoded if it cannot be read or its key has a structure of its own, and as one for another
key otherwise. The certificates that present exactly the pinned Ed25519 key are among the accepted
ones, as those that name that algorithm and whose bits all count; and where a handshake signature
is good for the certificate, in either version, there are no others. -/
theorem accept_exact (pin : Pin) (certificate : List UInt8) :
    (pin.accept certificate = .ok () ↔
      ∃ algorithm unused,
        presentedKey? certificate = some ⟨algorithm, ⟨unused, pin.key.octets.toList⟩⟩ ∧
          algorithm ∉ KeyAlgorithm.structured) ∧
    (pin.accept certificate = .error .badEncoding ↔
      presentedKey? certificate = none ∨ ∃ presented, presentedKey? certificate = some presented ∧
        presented.algorithm ∈ KeyAlgorithm.structured) ∧
    (pin.accept certificate = .error .otherKey ↔
      ∃ presented, presentedKey? certificate = some presented ∧
        presented.algorithm ∉ KeyAlgorithm.structured ∧
        presented.bits.bytes ≠ pin.key.octets.toList) ∧
    (pin.IsPresentedBy certificate ↔
      pin.accept certificate = .ok () ∧ ∃ bits,
        presentedKey? certificate = some ⟨KeyAlgorithm.ed25519, bits⟩ ∧ bits.unused = 0) ∧
    (∀ version code message signature,
      pin.accept certificate = .ok () ∧
          Handshake.check version code message certificate signature = .ok () ↔
        pin.IsPresentedBy certificate ∧
          Handshake.check version code message certificate signature = .ok ()) := by
  refine ⟨?_, accept_eq_badEncoding_iff, accept_eq_otherKey_iff, ?_, ?_⟩
  · rw [accept_eq_ok_iff]
    constructor
    · rintro ⟨⟨algorithm, unused, bytes⟩, found, unstructured, rfl⟩
      exact ⟨algorithm, unused, found, unstructured⟩
    · rintro ⟨algorithm, unused, found, unstructured⟩
      exact ⟨_, found, unstructured, rfl⟩
  · constructor
    · intro isPresented
      exact ⟨accept_of_isPresentedBy isPresented, _, isPresented, rfl⟩
    · rintro ⟨accepted, ⟨unused, bytes⟩, found, rfl⟩
      obtain ⟨presented, found', -, same⟩ := accept_eq_ok_iff.mp accepted
      rw [found] at found'
      cases found'
      have same : bytes = pin.key.octets.toList := same
      rw [IsPresentedBy, found, same]
  · intro version code message signature
    constructor
    · rintro ⟨accepted, checked⟩
      exact ⟨isPresentedBy_of_check accepted checked, checked⟩
    · rintro ⟨isPresented, checked⟩
      exact ⟨accept_of_isPresentedBy isPresented, checked⟩

/-- A certificate is accepted that presents the pinned bytes as a key for another algorithm, and so
is one that presents them with a bit that does not count; neither presents the pinned key. -/
theorem accepts_other_presented_keys :
    let key : List UInt8 :=
      bigEndian 32 0x0e83f49153a15ac9cb7497f7f1b95d2c37c55d6e5f28b46c334e102df12324f4
    let certificate (algorithm unused : UInt8) : List UInt8 :=
      bigEndian 32 0x3081dc30818fa003020102020101300506032b6570300e310c300a0603550403
      ++ bigEndian 32 0x0c03706b67301e170d3235303130313030303030305a170d3335303130313030
      ++ bigEndian 29 0x303030305a300e310c300a06035504030c03706b67302a300506032b65
      ++ [algorithm, 0x03, 0x21, unused] ++ key
      ++ bigEndian 32 0xa3123010300e0603551d11040730058203706b67300506032b6570034100bdf9
      ++ bigEndian 32 0x21bc00223f63fcd11a07880b677ce34b4087fab76ae8b15bb2d4f5050a28a957
      ++ bigEndian 30 0x985c4182a267a4ec6b5006a74f03a275a5134dc94753b54bd8037139580a
    let pin : Pin := ⟨⟨key, rfl⟩⟩
    pin.accept (certificate 0x70 0) = .ok () ∧ pin.IsPresentedBy (certificate 0x70 0) ∧
    pin.accept (certificate 0x6e 0) = .ok () ∧ ¬pin.IsPresentedBy (certificate 0x6e 0) ∧
    pin.accept (certificate 0x70 1) = .ok () ∧ ¬pin.IsPresentedBy (certificate 0x70 1) := by
  intro key certificate pin
  unfold IsPresentedBy
  refine ⟨eq_ok_of_isOk ?_, ?_, eq_ok_of_isOk ?_, ?_, eq_ok_of_isOk ?_, ?_⟩ <;> decide +kernel

end RoundKey.Pin
