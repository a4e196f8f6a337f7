import RoundKey.Session

/-!
# Channels

A channel carries one post to a server and closes. It is pinned to the key of the server. What
becomes of a request on such a channel is the business of the network, and nothing is said about it
here.
-/
namespace RoundKey

/-- A request as it is handed to a channel. -/
structure ChannelRequest where
  /-- The locator. -/
  url : String
  /-- What is to become of the connection after the reply. -/
  connection : String
  /-- What kind of document the body is. -/
  contentType : String
  /-- The document. -/
  body : List UInt8
deriving DecidableEq, Repr

/-- `PinnedTransport::post` — the request that a post to a server is handed on in. -/
def Post.request (post : Post) (identity : ServerIdentity) : ChannelRequest :=
  ⟨identity.url post.path, "close", "application/json", post.body⟩

/-- What comes back for a request on a channel that is pinned to a key. -/
abbrev Network := Ed25519.PublicKey → ChannelRequest → Delivery

/-- The network in which no connection comes about. -/
def Network.isolated : Network := fun _ _ => .error .request

/-- What comes back over a network for a post to a server. -/
def Network.deliver (network : Network) (identity : ServerIdentity) (post : Post) : Delivery :=
  network identity.key (post.request identity)

namespace Client

/-- Make a call over a network. -/
def callOver (client : Client) (network : Network) (call : Call) (randomness : Randomness) :
    Record :=
  match client.start? call randomness with
  | none => ⟨none, ⟨[], call.undrawn⟩, randomness⟩
  | some (pending, rest) =>
    ⟨some pending.post, client.finish (network.deliver client.identity pending.post) pending, rest⟩

end Client

end RoundKey
