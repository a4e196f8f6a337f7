import RoundKey.Certificate.KeyAlgorithm
import RoundKey.Certificate.Time

/-!
# The key that a certificate presents

What a peer is known by is the key in its certificate. The certificate is read tolerantly: names,
times, serial number, extensions and signature have to be there in their forms, but nothing is
asked of what they say. Bytes after a part are passed over, except after the extensions.
-/
namespace RoundKey.Certificate

open RoundKey.Der

/-- The key in a certificate. -/
structure PresentedKey where
  /-- The identifier of the algorithm that the key is for. -/
  algorithm : List UInt8
  /-- The bits of the key. -/
  bits : BitString
deriving DecidableEq, Repr

/-- Whether these contents are an integer from zero to below `2 ^ 32` in its shortest form. -/
def isSmallNumber : List UInt8 → Bool
  | [] => false
  | [byte] => byte < 128
  | 0 :: byte :: rest => 128 ≤ byte && ofBigEndian (byte :: rest) < UInt32.size
  | byte :: rest => byte < 128 && ofBigEndian (byte :: rest) < UInt32.size

/-- The bytes after the version, which may be left out. -/
def skipVersion (bytes : List UInt8) : Option (List UInt8) :=
  match Element.read bytes with
  | none => none
  | some (element, rest) =>
    if element.tag.number ≠ 0 then some bytes
    else if element.tag.family ≠ Tag.contextual then none
    else
      match Element.readPlain Tag.integer element.contents with
      | none => none
      | some (contents, _) => if isSmallNumber contents then some rest else none

/-- The identifier of the algorithm at the front, under any tag. Beside it there is nothing or
an element, which is passed over with all that follows it. -/
def readAlgorithm (bytes : List UInt8) : Option (List UInt8 × List UInt8) :=
  match Element.readNumbered Tag.sequence bytes with
  | none => none
  | some (contents, rest) =>
    match Element.read contents with
    | none => none
    | some (identifier, beside) =>
      if !identifier.tag.constructed && (beside.isEmpty || (Element.read beside).isSome) then
        some (identifier.contents, rest)
      else none

/-- The bytes after two times. -/
def skipTimes (bytes : List UInt8) : Option (List UInt8) :=
  match Element.readNumbered Tag.sequence bytes with
  | none => none
  | some (contents, rest) =>
    match Time.read contents with
    | none => none
    | some (_, later) => (Time.read later).map fun _ => rest

/-- The bytes after a name, whatever it is. -/
def skipName (bytes : List UInt8) : Option (List UInt8) :=
  (Element.readNumbered Tag.sequence bytes).map Prod.snd

/-- The key at the front. -/
def readKey (bytes : List UInt8) : Option (PresentedKey × List UInt8) :=
  match Element.readNumbered Tag.sequence bytes with
  | none => none
  | some (contents, rest) =>
    match readAlgorithm contents with
    | none => none
    | some (algorithm, later) =>
      (BitString.read later).map fun (bits, _) => (⟨algorithm, bits⟩, rest)

/-- The bytes after an identifier of a name under this number, which may be left out. Its
contents are any bytes but not none. -/
def skipNameIdentifier (number : Nat) (bytes : List UInt8) : List UInt8 :=
  match Element.read bytes with
  | none => bytes
  | some (element, rest) =>
    if element.tag.number = number ∧ element.tag.family = Tag.contextual
        ∧ element.contents ≠ [] then
      rest
    else bytes

/-- The bytes after a mark of one byte that an extension has to be understood, which may be left
out. -/
def skipMark (bytes : List UInt8) : List UInt8 :=
  match Element.readNumbered Tag.boolean bytes with
  | some ([_], rest) => rest
  | _ => bytes

/-- Whether these contents are an extension: an identifier, a mark, and the bytes of a value. -/
def isExtension (contents : List UInt8) : Bool :=
  match Element.read contents with
  | none => false
  | some (identifier, rest) =>
    !identifier.tag.constructed && (Element.readPlain Tag.octetString (skipMark rest)).isSome

/-- Whether these bytes are extensions one after another, at most `count` of them. -/
def areExtensions : (count : Nat) → List UInt8 → Bool
  | _, [] => true
  | 0, _ :: _ => false
  | count + 1, bytes =>
    match Element.readNumbered Tag.sequence bytes with
    | none => false
    | some (contents, rest) => isExtension contents && areExtensions count rest

/-- Whether these bytes are the end of the signed part of a certificate: nothing, or extensions
behind a header. The length in the header is not looked at. -/
def isEnd (bytes : List UInt8) : Bool :=
  bytes.isEmpty ||
    match readHeader bytes with
    | none => false
    | some ((tag, _), rest) =>
      tag.number = 3 &&
        match Element.readNumbered Tag.sequence rest with
        | none => false
        | some (contents, after) => after.isEmpty && areExtensions contents.length contents

/-- The key in the contents of the signed part of a certificate. -/
def keyOfBody? (contents : List UInt8) : Option PresentedKey := do
  let rest ← skipVersion contents
  let rest ← skipNumbered Tag.integer rest
  let (_, rest) ← readAlgorithm rest
  let rest ← skipName rest
  let rest ← skipTimes rest
  let rest ← skipName rest
  let (key, rest) ← readKey rest
  if isEnd (skipNameIdentifier 2 (skipNameIdentifier 1 rest)) then some key else none

/-- `X509Certificate::from_der`, `public_key` — the key that a certificate presents. -/
def presentedKey? (certificate : List UInt8) : Option PresentedKey := do
  let (contents, _) ← Element.readNumbered Tag.sequence certificate
  let (body, rest) ← Element.readNumbered Tag.sequence contents
  let key ← keyOfBody? body
  let (_, rest) ← readAlgorithm rest
  let _ ← BitString.read rest
  some key

end RoundKey.Certificate
