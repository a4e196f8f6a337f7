import RoundKey.Proofs.Certificate

/-!
# Possession of the pinned key

A certificate that presents the pinned key and a handshake signature that is good for the
certificate are together a proof that the peer holds the pinned key. The pin looks at the bytes of
the key and not at its scheme, and the signature is checked under a certificate and not under the
pin; the two meet because both read one key, and because every method but Ed25519 is for keys that
a pin refuses.
-/
namespace RoundKey

open Certificate

/-- A check that succeeds gives nothing but its success. -/
theorem eq_ok_of_isOk {Fault : Type} {checked : Except Fault Unit} (isOk : checked.isOk = true) :
    checked = .ok () := by
  cases checked with
  | ok => rfl
  | error fault => contradiction

/-- A pin accepts exactly the certificates that present its bytes as a key without a structure of
its own. -/
theorem Pin.accept_eq_ok_iff {pin : Pin} {certificate : List UInt8} :
    pin.accept certificate = .ok () ↔
      ∃ presented, presentedKey? certificate = some presented ∧
        presented.algorithm ∉ KeyAlgorithm.structured ∧
        presented.bits.bytes = pin.key.octets.toList := by
  unfold Pin.accept
  constructor
  · intro accepted
    split at accepted
    · contradiction
    · next presented found =>
      split at accepted
      · contradiction
      · next unstructured =>
        split at accepted
        · next same => exact ⟨presented, found, unstructured, same⟩
        · contradiction
  · rintro ⟨presented, found, unstructured, same⟩
    simp only [found, if_neg unstructured, if_pos same]

namespace Certificate.Method

/-- The identifier of the keys that a method is for. -/
def keyIdentifier : Method → List UInt8
  | ed25519 => KeyAlgorithm.ed25519
  | ecdsa _ _ => KeyAlgorithm.ellipticCurve
  | rsa _ _ => KeyAlgorithm.rsa

/-- The algorithm of a method begins with the identifier of its keys. -/
theorem read_algorithm {method : Method} {tag : Der.Tag} {identifier beside : List UInt8}
    (read : Der.Element.read method.algorithm = some (⟨tag, identifier⟩, beside)) :
    identifier = method.keyIdentifier := by
  cases method with
  | ed25519 => cases read; rfl
  | ecdsa curve hash => cases curve <;> cases read <;> rfl
  | rsa padding hash => cases read; rfl

/-- A method whose keys have no structure of their own is Ed25519. -/
theorem eq_ed25519 {method : Method}
    (unstructured : method.keyIdentifier ∉ KeyAlgorithm.structured) : method = ed25519 := by
  cases method with
  | ed25519 => rfl
  | ecdsa curve hash =>
    have : KeyAlgorithm.ellipticCurve ∈ KeyAlgorithm.structured := by decide
    exact absurd this unstructured
  | rsa padding hash =>
    have : KeyAlgorithm.rsa ∈ KeyAlgorithm.structured := by decide
    exact absurd this unstructured

/-- An Ed25519 signature that verifies under the bytes of a key verifies under that key. -/
theorem verify_of_verifiesEd25519 {key : Ed25519.PublicKey} {message signature : List UInt8}
    (verifies : verifiesEd25519 key.octets.toList message signature = true) :
    ∃ octets : Octets 64, octets.toList = signature ∧
      Ed25519.verify message ⟨octets⟩ key = true := by
  unfold verifiesEd25519 at verifies
  split at verifies
  · next found octets admitted whole =>
    have same : found = key := by
      simp only [Ed25519.PublicKey.ofBytes?, Octets.ofList?_eq_some_iff.mpr rfl, bind,
        Option.bind_some, Option.bind_eq_some_iff] at admitted
      obtain ⟨_, -, same⟩ := admitted
      exact (Option.some.inj same).symm
    exact ⟨octets, (Octets.ofList?_eq_some_iff.mp whole).symm, same ▸ verifies⟩
  · contradiction

end Certificate.Method

/-- Ed25519 is a method of its own scheme only. -/
theorem Scheme.eq_ed25519 {version : HandshakeVersion} {scheme : Scheme}
    (offers : .ed25519 ∈ scheme.methods version) : scheme = .ed25519 := by
  cases scheme with
  | ed25519 => rfl
  | ecdsa curve => cases curve <;> cases version <;> simp [methods, curveMethods] at offers
  | rsaPss hash => simp [methods] at offers
  | rsaFixed hash => simp [methods] at offers

/-- The scheme of Ed25519 has one number. -/
theorem Scheme.eq_of_ofCode? {version : HandshakeVersion} {code : Nat}
    (found : ofCode? version code = some .ed25519) : code = 0x0807 := by
  have registered : registered.lookup code = some .ed25519 := by
    unfold ofCode? at found
    split at found
    · split at found <;> cases found
    · exact found
  obtain ⟨front, back, parts, -⟩ := List.lookup_eq_some_iff.mp registered
  have inside : (code, Scheme.ed25519) ∈ Scheme.registered := by
    rw [parts]
    exact List.mem_append_right front List.mem_cons_self
  have alone : ∀ entry ∈ Scheme.registered, entry.2 = .ed25519 → entry.1 = 0x0807 := by decide
  exact alone _ inside rfl

namespace Handshake

/-- A signature that is accepted by some methods verifies by one that the key is for. -/
theorem checkMethods_eq_ok {info : KeyInfo} {message signature : List UInt8}
    {methods : List Method} (checked : checkMethods info message signature methods = .ok ()) :
    ∃ method ∈ methods, info.algorithm = method.algorithm ∧
      method.verifies info.key message signature = true := by
  induction methods with
  | nil => contradiction
  | cons method methods ih =>
    rw [checkMethods] at checked
    split at checked
    · next isFor =>
      split at checked
      · next verifies => exact ⟨method, List.mem_cons_self, isFor, verifies⟩
      · contradiction
    · obtain ⟨found, inside, verified⟩ := ih checked
      exact ⟨found, List.mem_cons_of_mem method inside, verified⟩

/-- A handshake signature is accepted only under the key that is described in the certificate, by
a method of its scheme that the key is for. -/
theorem check_eq_ok {version : HandshakeVersion} {code : Nat}
    {message certificate signature : List UInt8}
    (checked : check version code message certificate signature = .ok ()) :
    ∃ scheme contents info, Scheme.ofCode? version code = some scheme ∧
      endEntity certificate = .ok contents ∧ KeyInfo.ofContents contents = .ok info ∧
      ∃ method ∈ scheme.methods version, info.algorithm = method.algorithm ∧
        method.verifies info.key message signature = true := by
  unfold check at checked
  split at checked
  · contradiction
  · next scheme named =>
    split at checked
    · contradiction
    · next accepted =>
      simp only [checkCertified, bind_eq_ok] at accepted
      obtain ⟨contents, read, info, described, accepted⟩ := accepted
      exact ⟨scheme, contents, info, named, read, described, checkMethods_eq_ok accepted⟩

end Handshake

/-- A peer whose certificate is accepted under a pin and whose handshake signature is accepted for
that certificate, in either version, has signed by the scheme of Ed25519, and its signature
verifies over the message under the pinned key. -/
theorem Pin.handshake_proves_possession {pin : Pin} {version : HandshakeVersion} {code : Nat}
    {message certificate signature : List UInt8} (accepted : pin.accept certificate = .ok ())
    (checked : Handshake.check version code message certificate signature = .ok ()) :
    code = 0x0807 ∧ Scheme.ofCode? version code = some .ed25519 ∧
      ∃ octets : Octets 64, octets.toList = signature ∧
        Ed25519.verify message ⟨octets⟩ pin.key = true := by
  obtain ⟨presented, found, unstructured, pinned⟩ := Pin.accept_eq_ok_iff.mp accepted
  obtain ⟨scheme, contents, info, named, read, described, method, offered, isFor, verifies⟩ :=
    Handshake.check_eq_ok checked
  obtain ⟨oneKey, tag, beside, identified⟩ := presentedKey_agrees read described found
  rw [isFor] at identified
  rw [Method.read_algorithm identified] at unstructured
  obtain rfl := Method.eq_ed25519 unstructured
  obtain rfl := Scheme.eq_ed25519 offered
  rw [← oneKey, pinned] at verifies
  exact ⟨Scheme.eq_of_ofCode? named, named, Method.verify_of_verifiesEd25519 verifies⟩

/-- The holder of a key signs a handshake in the later version, and shows a certificate with an
extension, made for the name of a server. -/
theorem Pin.possession_of_certified_key :
    let key : List UInt8 :=
      bigEndian 32 0x0e83f49153a15ac9cb7497f7f1b95d2c37c55d6e5f28b46c334e102df12324f4
    let certificate : List UInt8 :=
      bigEndian 32 0x3081dc30818fa003020102020101300506032b6570300e310c300a0603550403
      ++ bigEndian 32 0x0c03706b67301e170d3235303130313030303030305a170d3335303130313030
      ++ bigEndian 32 0x303030305a300e310c300a06035504030c03706b67302a300506032b65700321
      ++ bigEndian 32 0x000e83f49153a15ac9cb7497f7f1b95d2c37c55d6e5f28b46c334e102df12324
      ++ bigEndian 32 0xf4a3123010300e0603551d11040730058203706b67300506032b65700341006b
      ++ bigEndian 32 0x42eb4dc942413827decc9385cf555a9015d0edd853890309af44cfee8d31f916
      ++ bigEndian 31 0x2c743ef6df7da53ec56ae85fb8b68280e7a54b55ade05b62972a97d46be406
    let signature : List UInt8 :=
      bigEndian 32 0x3f7e9b95be106cb752274bf970465c47bed03a29247986f82485de0acb3c0294
      ++ bigEndian 32 0x173f1d62b8cee38e14583360bbabd831178ef88f85a25f25f1a835ab1d61940d
    let pin : Pin := ⟨⟨key, rfl⟩⟩
    let message : List UInt8 := bigEndian 9 0x68616e647368616b65
    pin.accept certificate = .ok () ∧
    Handshake.check .v13 0x0807 message certificate signature = .ok () ∧
    ∃ octets : Octets 64, octets.toList = signature ∧
      Ed25519.verify message ⟨octets⟩ pin.key = true := by
  intro key certificate signature pin message
  have accepted : pin.accept certificate = .ok () := eq_ok_of_isOk (by decide +kernel)
  have checked : Handshake.check .v13 0x0807 message certificate signature = .ok () :=
    eq_ok_of_isOk (by decide +kernel)
  exact ⟨accepted, checked, (Pin.handshake_proves_possession accepted checked).2.2⟩

end RoundKey
