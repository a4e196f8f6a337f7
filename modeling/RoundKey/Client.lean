import RoundKey.Config
import RoundKey.Endpoint
import RoundKey.Envelope

/-!
# Clients

A client acts for one user at one server. Every call starts by drawing what it needs from the
random bytes and posting one request, and finishes with what the channel gives back for it. What
a call keeps between the two belongs to that call alone, so calls may be under way at the same
time. A call that cannot draw what it needs does not start: a question fails then, and an
extraction aborts.
-/
namespace RoundKey

/-- `Client` — a user at a server. -/
structure Client where
  /-- The server. -/
  identity : ServerIdentity
  /-- The name of the user. -/
  username : String
  /-- The seed of the key that signs requests. -/
  loginSeed : Ed25519.Seed
  /-- The key that the server attests. -/
  longTermKey : Ed25519.PublicKey
deriving DecidableEq

/-- Something a client can do: one of its methods with its arguments. -/
inductive Call where
  /-- `Client::register` — register the username and the login key. -/
  | register
  /-- `Client::verify` — prove ownership of the username by a token. -/
  | verify (token : List UInt8)
  /-- `Client::check_status` — ask whether the server knows the client. -/
  | status
  /-- `Client::extract` — obtain the key of a round. -/
  | extract (round : UInt32)
deriving DecidableEq, Repr

/-- A call that waits for its reply. -/
inductive Pending where
  /-- A registration. -/
  | register (request : RegisterRequest)
  /-- A proof of ownership. -/
  | verify (request : Signed VerifyRequest)
  /-- A question. -/
  | status (request : Signed StatusRequest)
  /-- An extraction, with the secret its reply is sealed to. -/
  | extract (secret : Montgomery.Secret) (request : Signed ExtractRequest)
deriving DecidableEq

/-- What a call that succeeds gives. -/
inductive Success where
  /-- The server agreed. -/
  | done
  /-- The key of a round. -/
  | extracted (key : ExtractedKey)
deriving DecidableEq

/-- What a call comes to. -/
abbrev CallUpshot := Upshot ClientError Success

/-- What a call comes to that cannot draw what it needs. `StatusArgs::new` returns a failure, and
`ExtractionEnvelope::generate` aborts. No other call draws anything. -/
def Call.undrawn : Call → CallUpshot
  | extract _ => .aborted
  | register | verify _ | status => .error .lowEntropy

/-- What a pending call has posted. -/
def Pending.post : Pending → Post
  | register request => Endpoint.post request
  | verify request => Endpoint.post request
  | status request => Endpoint.post request
  | extract _ request => Endpoint.post request

namespace Client

/-- `Client::with_transport` — the client of a configuration, for a long-term key. -/
def ofConfig (config : Config) (longTermKey : Ed25519.PublicKey) : Client :=
  ⟨config.server, config.username, config.loginKey, longTermKey⟩

/-- `Client::login_public_key` — the key that the requests of a client verify under. -/
def loginKey (client : Client) : Ed25519.PublicKey := client.loginSeed.publicKey

/-- The request of `Client::register` — the registration of a client. -/
def registerRequest (client : Client) : RegisterRequest := ⟨client.username, client.loginKey⟩

/-- The request of `Client::verify` — the proof of ownership by a token. -/
def verifyRequest (client : Client) (token : List UInt8) : Signed VerifyRequest :=
  Signed.sign ⟨client.username, token⟩ client.loginSeed

/-- `StatusArgs::new` — the question with a nonce. -/
def statusRequest (client : Client) (nonce : Octets 32) : Signed StatusRequest :=
  Signed.sign ⟨client.username, client.identity.key, nonce⟩ client.loginSeed

/-- The request of `Client::extract` — for the key of a round, with the public key of a secret to
seal the reply to. -/
def extractRequest (client : Client) (round : UInt32) (secret : Montgomery.Secret) :
    Signed ExtractRequest :=
  Signed.sign
    ⟨round, client.username, secret.publicKey, client.longTermKey, client.identity.key⟩
    client.loginSeed

/-- The first half of `Client::register`, `Client::verify`, `Client::check_status` and
`Client::extract` — draw what the call needs and post its request. It does not start without enough
random bytes, and then takes none. -/
def start? (client : Client) (call : Call) (randomness : Randomness) :
    Option (Pending × Randomness) :=
  match call with
  | .register => some (.register client.registerRequest, randomness)
  | .verify token => some (.verify (client.verifyRequest token), randomness)
  | .status => (draw? randomness).map fun (octets, rest) =>
    (.status (client.statusRequest octets), rest)
  | .extract round => (draw? randomness).map fun (octets, rest) =>
    (.extract ⟨octets⟩ (client.extractRequest round ⟨octets⟩), rest)

/-- What a call comes to whose answer is not looked at. -/
def acknowledged {α : Type} (logged : Logged (Except ClientError α)) : Logged CallUpshot :=
  ⟨logged.events, .ofExcept (logged.result.map fun _ => .done)⟩

/-- The second half of `Client::extract` — open the answer with the secret of the call. -/
def finishExtract (client : Client) (secret : Montgomery.Secret)
    (request : Signed ExtractRequest) (answer : Logged (Except ClientError (Signed ExtractReply))) :
    Logged CallUpshot :=
  match answer.result with
  | .error error => ⟨answer.events, .error error⟩
  | .ok reply =>
    let opened := Envelope.extractLogged secret request.body reply client.identity.key
    ⟨answer.events ++ opened.events, .ofExcept (opened.result.map .extracted)⟩

/-- The second half of every call — finish it with what the channel gave back. -/
def finish (client : Client) (delivery : Delivery) : Pending → Logged CallUpshot
  | .register _ => acknowledged (Endpoint.send RegisterRequest client.identity delivery)
  | .verify _ => acknowledged (Endpoint.send (Signed VerifyRequest) client.identity delivery)
  | .status _ => acknowledged (Endpoint.send (Signed StatusRequest) client.identity delivery)
  | .extract secret request =>
    client.finishExtract secret request
      (Endpoint.send (Signed ExtractRequest) client.identity delivery)

end Client

end RoundKey
