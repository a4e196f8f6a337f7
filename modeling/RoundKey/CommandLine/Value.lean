import RoundKey.Crypto.Ed25519
import RoundKey.Number.Signed
import RoundKey.Text.Base32
import RoundKey.Text.Utf8

/-!
# Values on the command line

Keys and tokens are typed in base32, with or without padding at the end; a round is a number.
The faults of a value are reported in the order in which they are looked for: first that it is
no base32, then that it has the wrong length, then that it stands for no point.
-/
namespace RoundKey.CommandLine

/-- Why a value is refused. -/
inductive ValueFault where
  /-- The text is no base32. -/
  | notBase32
  /-- A key has another length. -/
  | keyLength
  /-- A key is no point of the curve. -/
  | notPoint
  /-- A round is no number. -/
  | number (fault : SignedFault)
  /-- A round is out of its range. -/
  | range (value : Int)
deriving DecidableEq, Repr

/-- The text of a fault. -/
def ValueFault.message : ValueFault → String
  | notBase32 => "error: Value is not valid base32!"
  | keyLength => "error: Public key must be exactly 32 bytes long!"
  | notPoint => "error: Public key is not a valid Ed25519 point!"
  | number fault => fault.message
  | range value => toString value ++ " is not in 0..=4294967295"

/-- A text without the padding at its end. -/
def withoutPadding (text : String) : String :=
  String.ofList (text.toList.reverse.dropWhile (· = '=')).reverse

/-- `decode_base32` — the bytes that a text in base32 stands for. -/
def readBase32 (text : String) : Except ValueFault (List UInt8) :=
  match Text.Base32.decode (Text.utf8 (withoutPadding text)) with
  | .ok bytes => .ok bytes
  | .error _ => .error .notBase32

/-- `token_parser` — the token that a text stands for. -/
def readToken (text : String) : Except ValueFault (List UInt8) := readBase32 text

/-- `public_key_parser` — the public key that a text stands for. -/
def readPublicKey (text : String) : Except ValueFault Ed25519.PublicKey :=
  match readBase32 text with
  | .error fault => .error fault
  | .ok bytes =>
    match Octets.ofList? 32 bytes with
    | none => .error .keyLength
    | some octets =>
      let key : Ed25519.PublicKey := ⟨octets⟩
      if key.point?.isSome then .ok key else .error .notPoint

/-- The round that a text stands for. -/
def readRound (text : String) : Except ValueFault UInt32 :=
  match Signed64.read text.toList with
  | .error fault => .error (.number fault)
  | .ok value =>
    if 0 ≤ value ∧ value < UInt32.size then .ok (UInt32.ofNat value.toNat)
    else .error (.range value)

end RoundKey.CommandLine
