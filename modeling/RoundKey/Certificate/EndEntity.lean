import RoundKey.Certificate.Fault
import RoundKey.Der.Strict

/-!
# The key that a handshake is checked with

A handshake signature is checked with the key in the certificate of its maker. This certificate
is read strictly: of the third version, with one form for each part and nothing after any. The
extensions that such certificates are known to have may stand once each, and one that is not
known must not have to be understood.
-/
namespace RoundKey.Certificate

open RoundKey.Der

/-- What the key of a certificate is for, and its bytes. -/
structure KeyInfo where
  /-- The algorithm, with what stands beside its identifier. -/
  algorithm : List UInt8
  /-- The bytes of the key. -/
  key : List UInt8
deriving DecidableEq, Repr

/-- What is there, or a fault. -/
def expect {α : Type} (fault : CertificateFault) : Option α → Except CertificateFault α
  | some value => .ok value
  | none => .error fault

/-- The identifier that those of the usual extensions begin with. -/
def extensionArc : List UInt8 := [0x55, 0x1d]

/-- The last bytes of the identifiers of extensions that are known. -/
def knownExtensions : List UInt8 := [15, 17, 19, 30, 31, 37]

/-- The known extension whose value is not a sequence: what the key may be used for. -/
def keyUsage : UInt8 := 15

/-- The bytes after the version, which is the third. -/
def skipThirdVersion (bytes : List UInt8) : Except CertificateFault (List UInt8) := do
  let (contents, rest) ← expect .unacceptable (Strict.read (Strict.part 0) bytes)
  let (number, after) ← expect .badEncoding (Strict.read Strict.integer contents)
  match number with
  | [version] =>
    if 128 ≤ version then .error .badEncoding
    else if version = 2 ∧ after = [] then .ok rest
    else .error .unacceptable
  | [0, value] =>
    if 128 ≤ value then .error .unacceptable else .error .badEncoding
  | _ => .error .badEncoding

/-- Whether an extension has to be understood, and the bytes after the mark that says so. -/
def readMark (bytes : List UInt8) : Except CertificateFault (Bool × List UInt8) :=
  if bytes.head? = some Strict.boolean then
    match Strict.read Strict.boolean bytes with
    | some ([0x00], rest) => .ok (false, rest)
    | some ([0xff], rest) => .ok (true, rest)
    | _ => .error .badEncoding
  else .ok (false, bytes)

/-- The known extension that an identifier names. -/
def knownExtension? (identifier : List UInt8) : Option UInt8 :=
  match identifier with
  | [first, second, last] =>
    if [first, second] = extensionArc ∧ last ∈ knownExtensions then some last else none
  | _ => none

/-- Accept one extension after those that have been seen. -/
def acceptExtension (seen : List UInt8) (contents : List UInt8) :
    Except CertificateFault (List UInt8) := do
  let (identifier, rest) ← expect .badEncoding (Strict.read Strict.identifier contents)
  let (critical, rest) ← readMark rest
  let (value, rest) ← expect .badEncoding (Strict.read Strict.octetString rest)
  let seen ←
    match knownExtension? identifier with
    | none => if critical then .error .unacceptable else .ok seen
    | some known =>
      if known ∈ seen then .error .unacceptable
      else if known = keyUsage ∨ (Strict.readOnly Strict.sequence value).isSome then
        .ok (known :: seen)
      else .error .badEncoding
  if rest = [] then .ok seen else .error .badEncoding

/-- Accept extensions one after another, at most `count` of them. -/
def acceptExtensions : (count : Nat) → (seen : List UInt8) → List UInt8 →
    Except CertificateFault Unit
  | _, _, [] => .ok ()
  | 0, _, _ :: _ => .error .badEncoding
  | count + 1, seen, bytes => do
    let (contents, rest) ← expect .badEncoding (Strict.read Strict.sequence bytes)
    let seen ← acceptExtension seen contents
    acceptExtensions count seen rest

/-- Accept the end of the signed part of a certificate: nothing, or extensions. -/
def acceptEnd (bytes : List UInt8) : Except CertificateFault Unit :=
  if bytes = [] then .ok ()
  else do
    let (tagged, rest) ← expect .badEncoding (Strict.read (Strict.part 3) bytes)
    let (extensions, after) ← expect .badEncoding (Strict.read Strict.sequence tagged)
    acceptExtensions extensions.length [] extensions
    if after = [] ∧ rest = [] then .ok () else .error .badEncoding

/-- The contents of the description of the key, in the contents of the signed part of a
certificate whose signature is by this algorithm. -/
def describedKey (algorithm contents : List UInt8) : Except CertificateFault (List UInt8) := do
  let rest ← skipThirdVersion contents
  let (_, rest) ← expect .badEncoding (Strict.read Strict.integer rest)
  let (signature, rest) ← expect .badEncoding (Strict.read Strict.sequence rest)
  if signature ≠ algorithm then .error .unacceptable
  else do
    let (_, rest) ← expect .badEncoding (Strict.read Strict.sequence rest)
    let (_, rest) ← expect .badEncoding (Strict.read Strict.sequence rest)
    let (_, rest) ← expect .badEncoding (Strict.read Strict.sequence rest)
    let (key, rest) ← expect .badEncoding (Strict.read Strict.sequence rest)
    acceptEnd rest
    .ok key

/-- The contents of the description of the key in a certificate. -/
def endEntity (certificate : List UInt8) : Except CertificateFault (List UInt8) := do
  let contents ← expect .badEncoding (Strict.readOnly Strict.sequence certificate)
  let (body, rest) ← expect .badEncoding (Strict.read Strict.sequence contents)
  let (algorithm, rest) ← expect .badEncoding (Strict.read Strict.sequence rest)
  let (_, rest) ← expect .badEncoding (Strict.readWholeBits rest)
  if rest = [] then describedKey algorithm body else .error .badEncoding

/-- What the description of a key says. -/
def KeyInfo.ofContents (contents : List UInt8) : Except CertificateFault KeyInfo := do
  let (algorithm, rest) ← expect .badEncoding (Strict.read Strict.sequence contents)
  let (key, rest) ← expect .badEncoding (Strict.readWholeBits rest)
  if rest = [] then .ok ⟨algorithm, key⟩ else .error .badEncoding

end RoundKey.Certificate
