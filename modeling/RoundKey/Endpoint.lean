import RoundKey.Event
import RoundKey.Message
import RoundKey.ServerIdentity

/-!
# Endpoints

Each request has a path on the server and a type of replies. A reply counts as a success only
with the one status of a success; every other status carries an error of the server, or a body
that is shown as it is.
-/
namespace RoundKey

/-- `Endpoint` — the path of a request, its document, and how its reply is read. -/
class Endpoint (Request : Type) (Answer : outParam Type) where
  /-- `Endpoint::PATH` — the path on the server. -/
  path : String
  /-- The document that is posted. -/
  write : Request → List UInt8
  /-- `Endpoint::Reply` — the answer that the body of a successful reply holds. -/
  readReply : List UInt8 → Except Json.Fault Answer

/-- `Ack` — the acknowledgement that the body of a reply holds. -/
def readAcknowledgement (bytes : List UInt8) : Except Json.Fault String :=
  Json.whole (Json.readString .text) bytes

/-- The record of a reply whose presence is the whole answer. -/
def statusSchema : Data.Schema Data.Scalar.Value := ⟨"StatusReply", []⟩

/-- `StatusReply` — the reply to the question whether the server knows the client. -/
def readStatus (bytes : List UInt8) : Except Json.Fault Unit :=
  Json.whole (Json.readRecord statusSchema) bytes

instance : Endpoint RegisterRequest String where
  path := "register"
  write := Message.write
  readReply := readAcknowledgement

instance : Endpoint (Signed VerifyRequest) String where
  path := "verify"
  write := Signed.write
  readReply := readAcknowledgement

instance : Endpoint (Signed StatusRequest) Unit where
  path := "status"
  write := Signed.write
  readReply := readStatus

instance : Endpoint (Signed ExtractRequest) (Signed ExtractReply) where
  path := "extract"
  write := Signed.write
  readReply := Signed.read

/-- A request as it goes out. -/
structure Post where
  /-- The path on the server. -/
  path : String
  /-- The document. -/
  body : List UInt8
deriving DecidableEq, Repr

/-- `decode_reply` — the answer in a reply. -/
def decodeReply {α : Type} (read : List UInt8 → Except Json.Fault α) (reply : Reply) :
    Except ClientError α :=
  if reply.status = .success then
    match read reply.body with
    | .ok answer => .ok answer
    | .error fault => .error (.malformedReply fault)
  else
    match Message.read (M := ServerError) reply.body with
    | .ok error => .error (.server error)
    | .error _ => .error (.unparseableErrorBody reply.status (Text.ofUtf8Lossy reply.body))

namespace Endpoint

variable {Request Answer : Type} [Endpoint Request Answer]

/-- The post of a request. -/
def post (request : Request) : Post := ⟨path Request, write request⟩

/-- The answer in what a channel gave back for a request of this type. -/
def receive (Request : Type) {Answer : Type} [Endpoint Request Answer]
    (identity : ServerIdentity) (delivery : Delivery) : Except ClientError Answer :=
  match delivery with
  | .error fault => .error (.transport (identity.url (path Request)) fault)
  | .ok reply => decodeReply (readReply Request) reply

/-- `send` — send a request of this type, with what the channel gives back. -/
def send (Request : Type) {Answer : Type} [Endpoint Request Answer] (identity : ServerIdentity)
    (delivery : Delivery) : Logged (Except ClientError Answer) :=
  ⟨[.sending (path Request) identity.address], receive Request identity delivery⟩

end Endpoint

end RoundKey
