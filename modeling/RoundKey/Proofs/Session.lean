import RoundKey.Proofs.Client
import RoundKey.Proofs.Crypto.Edwards
import RoundKey.Proofs.Extraction

/-!
# What a session posts

Whatever a client has done before, a step posts the request of its call with the fields of the
configuration and the bytes drawn in that step. The request is read back from the document as it
was signed, so its signature is over the fields that the server reads, under the key that the
client registers. The server key in a request is that of the server the client was configured for,
and replies are verified under the same key.
-/
namespace RoundKey

/-- Strict verification accepts the signature that was made of a message with a seed. -/
def Ed25519.AcceptsOwn (message : List UInt8) (seed : Seed) : Prop :=
  verifyStrict message (sign message seed) seed.publicKey = true

instance (message : List UInt8) (seed : Ed25519.Seed) :
    Decidable (Ed25519.AcceptsOwn message seed) :=
  inferInstanceAs (Decidable (_ = true))

namespace Config

/-- A post carries a signed request to a path: its document is read as that request, and the request
verifies under the login key. -/
structure PostsSigned {M : Type} [Signable M] (config : Config) (path : String) (body : M)
    (post : Post) : Prop where
  /-- It goes to the path. -/
  path_eq : post.path = path
  /-- Its document is read as the request, which verifies if the signature scheme accepts its own
  signatures of these bytes. -/
  reads : ∃ signed : Signed M, Signed.read post.body = .ok signed ∧ signed.body = body ∧
    (Ed25519.AcceptsOwn (canonical body) config.loginKey →
      signed.verifies config.loginPublicKey = true)

/-- What a call posts, for a configuration, a long-term key and the bytes that the call drew. -/
def Posts (config : Config) (longTermKey : Ed25519.PublicKey) (drawn : List UInt8)
    (post : Post) : Call → Prop
  | .register => drawn = [] ∧ post.path = "register" ∧
    Message.read post.body = .ok (RegisterRequest.mk config.username config.loginPublicKey)
  | .verify token => drawn = [] ∧
    config.PostsSigned "verify" (VerifyRequest.mk config.username token) post
  | .status => ∃ nonce : Octets 32, drawn = nonce.toList ∧
    config.PostsSigned "status" (StatusRequest.mk config.username config.server.key nonce) post
  | .extract round => ∃ secret : Montgomery.Secret, drawn = secret.octets.toList ∧
    config.PostsSigned "extract"
      (ExtractRequest.mk round config.username secret.publicKey longTermKey config.server.key) post

/-- A reply to an extraction is verified under the key of the server: nothing is extracted from it
otherwise, and if it is as it should be up to its signature, it is refused for its signature exactly
if that does not verify. -/
structure VerifiesReply (config : Config) (round : UInt32) (reply : Signed ExtractReply)
    (result : CallUpshot) : Prop where
  /-- What is extracted is signed. -/
  isSigned : ∀ success, result = .ok success → reply.verifies config.server.key = true
  /-- What is not signed is refused for that. -/
  refused : reply.body.round = round → reply.body.username = config.username →
    48 ≤ reply.body.sealedKey.length →
    (result = .error .invalidSignature ↔ reply.verifies config.server.key = false)

/-- What a step does, for the random bytes that are left before it. -/
structure StepPosts (config : Config) (longTermKey : Ed25519.PublicKey) (step : Step)
    (before : Randomness) (record : Record) : Prop where
  /-- If it posts something, it has drawn from the front of the random bytes, and posts the request
  of its call. -/
  posts : ∀ post, record.post = some post →
    ∃ drawn, before = drawn ++ record.left ∧ config.Posts longTermKey drawn post step.call
  /-- It posts nothing only if its call needs random bytes and there are too few, and then takes
  none. -/
  silent : record.post = none →
    step.call.draws = true ∧ before.length < 32 ∧ record.left = before
  /-- If it has posted the request for a key, the reply is verified under the key of the server. -/
  verifiesReply : ∀ round bytes reply, step.call = .extract round →
    step.delivery = .ok ⟨.success, bytes⟩ → Signed.read bytes = .ok reply →
    record.post ≠ none → config.VerifiesReply round reply record.outcome.result

end Config

namespace Client

variable {config : Config} {longTermKey : Ed25519.PublicKey}

/-- The signature of a posted request is over the fields that the server reads. -/
theorem postsSigned_of_read {M : Type} [Signable M] {path : String} {body : M} {post : Post}
    (path_eq : post.path = path)
    (read : Signed.read post.body = .ok (Signed.sign body config.loginKey)) :
    config.PostsSigned path body post :=
  ⟨path_eq, _, read, rfl, id⟩

/-- A call that starts posts the request of its call. -/
theorem posts_of_start? (serverPoint : config.server.key.point?.isSome = true)
    (longTermPoint : longTermKey.point?.isSome = true) {call : Call} {randomness rest : Randomness}
    {pending : Pending}
    (started : (ofConfig config longTermKey).start? call randomness = some (pending, rest)) :
    config.Posts longTermKey pending.drawn pending.post call := by
  cases call with
  | register =>
    cases started
    refine ⟨rfl, rfl, ?_⟩
    exact RegisterRequest.read_write _ config.loginKey.isSome_point?_publicKey
  | verify token =>
    cases started
    exact ⟨rfl, postsSigned_of_read rfl (VerifyRequest.read_write _)⟩
  | status =>
    obtain ⟨nonce, -, rfl⟩ := start?_status_eq_some_iff.mp started
    exact ⟨nonce, rfl, postsSigned_of_read rfl (StatusRequest.read_write _ serverPoint)⟩
  | extract round =>
    obtain ⟨secret, -, rfl⟩ := start?_extract_eq_some_iff.mp started
    exact ⟨secret, rfl,
      postsSigned_of_read rfl (ExtractRequest.read_write _ longTermPoint serverPoint)⟩

/-- The reply to an extraction is verified under the key of the server. -/
theorem verifiesReply_extraction {round : UInt32} {draw : Octets 32} {rest : Randomness}
    {bytes : List UInt8} {reply : Signed ExtractReply} (read : Signed.read bytes = .ok reply) :
    let client := ofConfig config longTermKey
    config.VerifiesReply round reply
      (client.extraction round draw rest (.ok ⟨.success, bytes⟩)).result := by
  intro client
  constructor
  · intro success succeeded
    obtain ⟨body, found, extracted, same, readFound, extracts, -⟩ := result_eq_ok_iff.mp succeeded
    cases same
    cases read.symm.trans readFound
    exact extracts.answers.isSigned
  · intro sameRound username long
    constructor
    · intro failed
      cases verifies : reply.verifies config.server.key with
      | false => rfl
      | true =>
        rcases Envelope.extracts_or_refuses ⟨draw⟩ (client.extractRequest round ⟨draw⟩).body reply
          client.identity.key with ⟨extracted, extracts⟩ | ⟨refusal, refuses⟩
        · rw [Status.success, extraction_of_extracts read extracts] at failed
          cases failed
        · rw [Status.success, extraction_of_refuses read refuses] at failed
          exact absurd (Upshot.error.inj failed) (refuses.error_ne_invalidSignature verifies)
    · intro isUnsigned
      have refuses : Envelope.Refuses ⟨draw⟩ (client.extractRequest round ⟨draw⟩).body reply
          client.identity.key .invalidSignature :=
        .invalidSignature sameRound username long isUnsigned
      rw [Status.success, extraction_of_refuses read refuses]
      rfl

/-- Every step posts what it has to, whatever random bytes are left before it. -/
theorem stepPosts_runStep (serverPoint : config.server.key.point?.isSome = true)
    (longTermPoint : longTermKey.point?.isSome = true) (step : Step) (before : Randomness) :
    config.StepPosts longTermKey step before
      ((ofConfig config longTermKey).runStep step before) := by
  cases started : (ofConfig config longTermKey).start? step.call before with
  | none =>
    rw [runStep_of_none started]
    obtain ⟨draws, few⟩ := start?_eq_none_iff.mp started
    constructor
    case posts =>
      intro post posted
      exact absurd posted.symm (Option.some_ne_none post)
    case silent =>
      intro _
      exact ⟨draws, few, rfl⟩
    case verifiesReply =>
      intro _ _ _ _ _ _ posted
      exact absurd rfl posted
  | some found =>
    obtain ⟨pending, rest⟩ := found
    obtain ⟨draws, -, -⟩ := start?_eq_some started
    constructor
    case posts =>
      intro post posted
      rw [runStep_of_some started] at posted ⊢
      cases posted
      exact ⟨pending.drawn, draws, posts_of_start? serverPoint longTermPoint started⟩
    case silent =>
      intro posted
      rw [runStep_of_some started] at posted
      exact absurd posted (Option.some_ne_none _)
    case verifiesReply =>
      intro round bytes reply isExtract arrived read _
      obtain ⟨call, delivery⟩ := step
      cases isExtract
      cases arrived
      obtain ⟨secret, front, -⟩ := start?_extract_eq_some_iff.mp started
      rw [front]
      exact verifiesReply_extraction read

/-- The record of a step in a session is what the step does with the random bytes that the steps
before it left. -/
theorem getElem?_run (client : Client) (steps : List Step) (randomness : Randomness)
    (index : Nat) :
    (client.run steps randomness)[index]? =
      steps[index]?.map fun step =>
        client.runStep step (client.leftAfter (steps.take index) randomness) := by
  induction steps generalizing randomness index with
  | nil => rfl
  | cons step steps ih =>
    cases index with
    | zero => rfl
    | succ index => exact ih _ index

/-- In every session of every configured client, each step posts to the path of its call, unless it
needs random bytes and there are too few. Its document is read as a request of that call with
exactly the fields of the configuration, the call and the bytes drawn in that step, and a signed
request verifies under the login key that a registration announces. The server key in it is that of
the configured server, and the reply to an extraction is verified under the same key. The server
key and the long-term key have to be the bytes of points, as public keys are that were read. -/
theorem session_posts_what_it_signs (config : Config) (longTermKey : Ed25519.PublicKey)
    (serverPoint : config.server.key.point?.isSome = true)
    (longTermPoint : longTermKey.point?.isSome = true) (steps : List Step)
    (randomness : Randomness) :
    let client := ofConfig config longTermKey
    ∀ index step, steps[index]? = some step →
      ∃ record, (client.run steps randomness)[index]? = some record ∧
        config.StepPosts longTermKey step
          (client.leftAfter (steps.take index) randomness) record := by
  intro client index step inside
  refine ⟨client.runStep step (client.leftAfter (steps.take index) randomness), ?_, ?_⟩
  · rw [getElem?_run, inside, Option.map_some]
  · exact stepPosts_runStep serverPoint longTermPoint step _

/-- After a registration and a proof of ownership, an extraction posts a request that is read with
the fields it should have and verifies under the login key. -/
theorem session_of_three_calls :
    let serverSeed : Ed25519.Seed := ⟨.ofNat 32 1⟩
    let config : Config :=
      { username := "zoë"
        loginKey := ⟨.ofNat 32 2⟩
        server := ⟨"pkg.example:80", serverSeed.publicKey, rfl⟩ }
    let longTermKey : Ed25519.PublicKey := ⟨.zero 32⟩
    let client := ofConfig config longTermKey
    let draw : Octets 32 := .ofNat 32 5
    let steps : List Step :=
      [⟨.register, .ok ⟨.success, []⟩⟩, ⟨.verify [0xff, 0x00], .error .connection⟩,
       ⟨.extract 7, .error .request⟩]
    config.server.key.point?.isSome = true ∧ longTermKey.point?.isSome = true ∧
      ∃ record post, (client.run steps draw.toList)[2]? = some record ∧
        record.post = some post ∧ post.path = "extract" ∧
        ∃ signed : Signed ExtractRequest, Signed.read post.body = .ok signed ∧
          signed.body = ⟨7, "zoë", (Montgomery.Secret.mk draw).publicKey, longTermKey,
            config.server.key⟩ ∧
          signed.verifies config.loginPublicKey = true := by
  intro serverSeed config longTermKey client draw steps
  have serverPoint : config.server.key.point?.isSome = true := serverSeed.isSome_point?_publicKey
  have longTermPoint : longTermKey.point?.isSome = true := by decide +kernel
  obtain ⟨record, found, kept⟩ := session_posts_what_it_signs config longTermKey serverPoint
    longTermPoint steps draw.toList 2 _ rfl
  have before : client.leftAfter (steps.take 2) draw.toList = draw.toList := rfl
  rw [before] at kept
  cases posted : record.post with
  | none =>
    have few := (kept.silent posted).2.1
    rw [draw.length_eq] at few
    exact absurd few (Nat.lt_irrefl 32)
  | some post =>
    obtain ⟨drawn, front, secret, same, path, signed, read, body, verifies⟩ :=
      kept.posts post posted
    have octets : secret.octets.toList = draw.toList := by
      rw [same, ← List.append_nil draw.toList] at front
      exact (List.append_inj front (draw.length_eq.trans secret.octets.length_eq.symm)).1.symm
    have isDraw : secret = ⟨draw⟩ := congrArg Montgomery.Secret.mk (Octets.ext octets)
    rw [isDraw] at body verifies
    have accepts : Ed25519.AcceptsOwn
        (canonical (ExtractRequest.mk 7 "zoë" (Montgomery.Secret.mk draw).publicKey longTermKey
          config.server.key)) config.loginKey := by decide +kernel
    exact ⟨serverPoint, longTermPoint, record, post, found, posted, path, signed, read, body,
      verifies accepts⟩

end Client

end RoundKey
