import RoundKey.Json.Fault
import RoundKey.KeyMaterial
import RoundKey.Reply
import RoundKey.ServerError

/-!
# Failures of a call

Every way in which a call can fail, and its text. Texts that quote a name or a body of a server
stay on one line.
-/
namespace RoundKey

/-- `Error` — why a call failed. -/
inductive ClientError where
  /-- No reply came back from the locator. -/
  | transport (url : String) (fault : ChannelFault)
  /-- The server refused. -/
  | server (error : ServerError)
  /-- The server failed without saying why. -/
  | unparseableErrorBody (status : Status) (body : String)
  /-- The reply is no reply to the request. -/
  | malformedReply (fault : Json.Fault)
  /-- The reply is for another round. -/
  | roundMismatch (expected actual : UInt32)
  /-- The reply is for another username. -/
  | usernameMismatch (expected actual : String)
  /-- The sealed key is too short to hold a box. -/
  | shortCiphertext (length : Nat)
  /-- The server did not sign the reply. -/
  | invalidSignature
  /-- The box does not open. -/
  | decryptionFailed
  /-- The box or the attestation holds no key material. -/
  | malformedKeyMaterial (fault : KeyMaterialFault)
  /-- There are too few random bytes for a nonce. -/
  | lowEntropy
deriving DecidableEq, Repr

/-- `Error` as it is shown — the text of a failed call. -/
def ClientError.message : ClientError → String
  | transport url _ => "Error making PKG request " ++ Text.quote url ++ "!"
  | server error => "PKG server returned an error: " ++ error.text
  | unparseableErrorBody status body =>
    "Error response (" ++ status.text ++ ") with unparseable body: " ++ Text.quote body
  | malformedReply _ => "Failed to decode reply from PKG server!"
  | roundMismatch expected actual =>
    "Expected reply for round " ++ toString expected ++ ", but got " ++ toString actual ++ "!"
  | usernameMismatch expected actual =>
    "Expected reply for username " ++ Text.quote expected ++ ", but got " ++ Text.quote actual
      ++ "!"
  | shortCiphertext length => "Unexpectedly short ciphertext (" ++ toString length ++ " bytes)!"
  | invalidSignature => "Invalid PKG server signature over reply!"
  | decryptionFailed => "Box authentication failed!"
  | malformedKeyMaterial _ => "Failed to decode extracted IBE private key!"
  | lowEntropy => "Used PRNG has low entropy!"

end RoundKey
