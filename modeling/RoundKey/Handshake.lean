import RoundKey.Certificate.EndEntity
import RoundKey.Certificate.Method

/-!
# Handshake signatures

In a handshake a server signs what has been said so far. The signature names a scheme, and each
scheme stands for one or more methods. The key in the certificate of the server is used only by a
method that it is for.
-/
namespace RoundKey

/-- The version of a handshake. -/
inductive HandshakeVersion where
  /-- The version in which a curve is not bound to a hash. -/
  | v12
  /-- The version in which a scheme stands for one method. -/
  | v13
deriving DecidableEq, Repr

/-- A scheme that signatures are checked by. -/
inductive Scheme where
  /-- Signatures over the Edwards curve of this library. -/
  | ed25519
  /-- Signatures over a curve, of the hash with as many bits as a coordinate. -/
  | ecdsa (curve : Curve)
  /-- Signatures by products of two primes, with random padding. -/
  | rsaPss (hash : Hash)
  /-- Signatures by products of two primes, with fixed padding. -/
  | rsaFixed (hash : Hash)
deriving DecidableEq, Repr

namespace Scheme

/-- The schemes and their registered numbers. -/
def registered : List (Nat × Scheme) :=
  [(0x0401, .rsaFixed .sha256), (0x0403, .ecdsa .p256), (0x0501, .rsaFixed .sha384),
   (0x0503, .ecdsa .p384), (0x0601, .rsaFixed .sha512), (0x0804, .rsaPss .sha256),
   (0x0805, .rsaPss .sha384), (0x0806, .rsaPss .sha512), (0x0807, .ed25519)]

/-- The scheme under a number in a version. Fixed padding is not used in the later version. -/
def ofCode? (version : HandshakeVersion) (code : Nat) : Option Scheme :=
  match registered.lookup code with
  | some (.rsaFixed hash) => if version = .v13 then none else some (.rsaFixed hash)
  | found => found

/-- The methods over a curve and, where curves are not bound to hashes, over the other one. -/
def curveMethods (version : HandshakeVersion) (curve other : Curve) (hash : Hash) :
    List Certificate.Method :=
  .ecdsa curve hash :: if version = .v13 then [] else [.ecdsa other hash]

/-- The methods that a scheme stands for in a version, first the one that it is named for. -/
def methods (version : HandshakeVersion) : Scheme → List Certificate.Method
  | ed25519 => [.ed25519]
  | ecdsa .p256 => curveMethods version .p256 .p384 .sha256
  | ecdsa .p384 => curveMethods version .p384 .p256 .sha384
  | rsaPss hash => [.rsa .random hash]
  | rsaFixed hash => [.rsa .fixed hash]

end Scheme

/-- Why a handshake signature is refused. -/
inductive HandshakeFault where
  /-- The scheme is none that is known in the version. -/
  | unofferedScheme
  /-- The certificate is refused, or the signature under its key. -/
  | certificate (fault : CertificateFault)
deriving DecidableEq, Repr

namespace Handshake

/-- `PinnedKeyVerifier::supported_verify_schemes` — the schemes that are offered to a server. -/
def offered : List Scheme := [.ed25519]

/-- Check a signature under the described key, by the first of these methods that the key is
for. -/
def checkMethods (info : Certificate.KeyInfo) (message signature : List UInt8) :
    List Certificate.Method → Except CertificateFault Unit
  | [] => .error .unsupportedAlgorithm
  | method :: methods =>
    if info.algorithm = method.algorithm then
      if method.verifies info.key message signature then .ok () else .error .badSignature
    else checkMethods info message signature methods

/-- `crypto::verify_tls12_signature`, `crypto::verify_tls13_signature` — check the signature of a
message under the key of a certificate. -/
def checkCertified (version : HandshakeVersion) (scheme : Scheme)
    (message certificate signature : List UInt8) : Except CertificateFault Unit := do
  let contents ← Certificate.endEntity certificate
  let info ← Certificate.KeyInfo.ofContents contents
  checkMethods info message signature (scheme.methods version)

/-- `PinnedKeyVerifier::verify_tls12_signature`, `PinnedKeyVerifier::verify_tls13_signature` — check
a handshake signature. The scheme is looked at before the certificate. -/
def check (version : HandshakeVersion) (code : Nat) (message certificate signature : List UInt8) :
    Except HandshakeFault Unit :=
  match Scheme.ofCode? version code with
  | none => .error .unofferedScheme
  | some scheme =>
    match checkCertified version scheme message certificate signature with
    | .error fault => .error (.certificate fault)
    | .ok () => .ok ()

end Handshake

end RoundKey
