import Mathlib.Data.List.Forall2
import RoundKey.Proofs.Session

/-!
# What a session shows of its secrets

The login seed, the long-term key and the tokens enter nothing but four members of the requests: the
login key, the token, the long-term key and the signature. Two clients of one user at one server
that make the same calls, up to the tokens, and get the same things back report the same and end
alike, and their requests differ in no other member.
-/
namespace RoundKey

open RoundKey.Data

/-- Two members of one name and one kind, with one value unless the name is hidden. -/
structure Data.Entry.AgreesUpTo (hidden : List String) (first second : Entry Scalar.Value) :
    Prop where
  /-- They have one name. -/
  name : first.name = second.name
  /-- Their values are of one kind. -/
  kind : first.kind = second.kind
  /-- They are the same unless they are hidden. -/
  shown : first.name ∉ hidden → first = second

/-- Two posts to one path whose documents are the same member by member, up to the values of hidden
members. -/
structure Post.AgreesUpTo (hidden : List String) (first second : Post) : Prop where
  /-- They go to one path. -/
  path : first.path = second.path
  /-- Their documents have the same members, but for what is hidden. -/
  members : ∃ firstMembers secondMembers : List (Entry Scalar.Value),
    first.body = Json.writeMap (firstMembers.map Json.entryText) ∧
    second.body = Json.writeMap (secondMembers.map Json.entryText) ∧
    List.Forall₂ (Entry.AgreesUpTo hidden) firstMembers secondMembers

/-- The members of requests that depend on secrets. -/
def secretMembers : List String := ["LoginKey", "Token", "UserLongTermKey", "Signature"]

/-- Two calls that are the same up to a token. -/
inductive Call.AgreesUpToToken : Call → Call → Prop where
  /-- Two registrations. -/
  | register : AgreesUpToToken .register .register
  /-- Two proofs of ownership, by any tokens. -/
  | verify (first second : List UInt8) : AgreesUpToToken (.verify first) (.verify second)
  /-- Two questions. -/
  | status : AgreesUpToToken .status .status
  /-- Two extractions for one round. -/
  | extract (round : UInt32) : AgreesUpToToken (.extract round) (.extract round)

/-- Without a draw, calls that are the same up to a token come to the same. -/
theorem Call.AgreesUpToToken.undrawn_eq {first second : Call}
    (alike : first.AgreesUpToToken second) : first.undrawn = second.undrawn := by
  cases alike <;> rfl

/-- Two steps that are the same up to a token, with the same thing coming back. -/
structure Step.AgreesUpToToken (first second : Step) : Prop where
  /-- Their calls are the same up to a token. -/
  call : first.call.AgreesUpToToken second.call
  /-- The same thing comes back. -/
  delivery : first.delivery = second.delivery

/-- Two clients that act for one user at one server, with any keys. -/
structure Client.SameUser (first second : Client) : Prop where
  /-- They use one server. -/
  identity : first.identity = second.identity
  /-- They act for one user. -/
  username : first.username = second.username

/-- Two records that differ in nothing but the secret members of what was posted. -/
structure Record.AgreesUpToSecrets (first second : Record) : Prop where
  /-- Both posted nothing, or the same up to secret members. -/
  post : Option.Rel (Post.AgreesUpTo secretMembers) first.post second.post
  /-- They reported the same, and ended with the same result. -/
  outcome : first.outcome = second.outcome
  /-- They left the same random bytes. -/
  left : first.left = second.left

/-- The values of a record are the same in every field that is not hidden. -/
def Data.Values.AgreeUpTo (hidden : List String) :
    (fields : List (Field Scalar.Value)) → Values fields → Values fields → Prop
  | [], (), () => True
  | field :: fields, (first, firsts), (second, seconds) =>
    (field.name ∉ hidden → first = second) ∧ AgreeUpTo hidden fields firsts seconds

/-- Values that are the same up to hidden fields are members that agree up to them. -/
theorem Data.Values.AgreeUpTo.entries {hidden : List String} {fields : List (Field Scalar.Value)}
    {first second : Values fields} (agree : AgreeUpTo hidden fields first second) :
    List.Forall₂ (Entry.AgreesUpTo hidden) (Values.entries fields first)
      (Values.entries fields second) := by
  induction fields with
  | nil => exact .nil
  | cons field fields ih =>
    obtain ⟨first, firsts⟩ := first
    obtain ⟨second, seconds⟩ := second
    have here : Entry.AgreesUpTo hidden ⟨field.name, field.kind, first⟩
        ⟨field.name, field.kind, second⟩ :=
      ⟨rfl, rfl, fun visible => by rw [agree.1 visible]⟩
    exact .cons here (ih agree.2)

section

variable {hidden : List String} {path : String}

/-- Posts of plain messages agree up to what is hidden if the messages do. -/
theorem Post.agreesUpTo_write {M : Type} [Message M] {first second : M}
    (agree : Values.AgreeUpTo hidden _ (Message.toValues first) (Message.toValues second)) :
    AgreesUpTo hidden ⟨path, Message.write first⟩ ⟨path, Message.write second⟩ := by
  refine ⟨rfl, _, _, ?_, ?_, agree.entries⟩
  · rw [Message.write, Json.writeRecord, Json.memberTexts_eq]
  · rw [Message.write, Json.writeRecord, Json.memberTexts_eq]

/-- The member that carries a signature. -/
def signatureEntry (signature : Ed25519.Signature) : Entry Scalar.Value :=
  ⟨Json.signatureName, Json.signatureKind, signature⟩

/-- A signed message is written as the members of its body and its signature. -/
theorem Signed.write_eq {M : Type} [Signable M] (signed : Signed M) :
    signed.write = Json.writeMap ((Values.entries _ (Message.toValues signed.body) ++
      [signatureEntry signed.signature]).map Json.entryText) := by
  rw [Signed.write, Json.writeSigned, Json.memberTexts_eq, List.map_append]
  rfl

/-- Posts of signed messages agree up to what is hidden if their bodies do and the signature is
hidden. -/
theorem Post.agreesUpTo_writeSigned {M : Type} [Signable M] {first second : Signed M}
    (unsigned : Json.signatureName ∈ hidden)
    (agree : Values.AgreeUpTo hidden _ (Message.toValues first.body)
      (Message.toValues second.body)) :
    AgreesUpTo hidden ⟨path, first.write⟩ ⟨path, second.write⟩ := by
  have signatures : Entry.AgreesUpTo hidden (signatureEntry first.signature)
      (signatureEntry second.signature) :=
    ⟨rfl, rfl, fun visible => absurd unsigned visible⟩
  refine ⟨rfl, _, _, first.write_eq, second.write_eq, ?_⟩
  exact List.rel_append agree.entries (.cons signatures .nil)

end

/-- Of its request, opening a reply looks at the round and the username only. -/
theorem Envelope.extractLogged_congr {secret : Montgomery.Secret} {first second : ExtractRequest}
    (round : first.round = second.round) (username : first.username = second.username)
    (reply : Signed ExtractReply) (key : Ed25519.PublicKey) :
    extractLogged secret first reply key = extractLogged secret second reply key := by
  simp only [extractLogged, extract, checkReply, round, username]

namespace Client

variable {first second : Client}

/-- Two calls that have started: what they post agrees up to secret members, and whatever comes back
they finish alike. -/
structure StartsAlike (first second : Client) (firstStart secondStart : Pending × Randomness) :
    Prop where
  /-- They post the same up to secret members. -/
  post : firstStart.1.post.AgreesUpTo secretMembers secondStart.1.post
  /-- They finish alike. -/
  finish : ∀ delivery,
    first.finish delivery firstStart.1 = second.finish delivery secondStart.1
  /-- They leave the same random bytes. -/
  left : firstStart.2 = secondStart.2

/-- Extractions for one user at one server finish alike. -/
theorem finish_extract_alike (same : first.SameUser second) (round : UInt32)
    (secret : Montgomery.Secret) (delivery : Delivery) :
    first.finish delivery (.extract secret (first.extractRequest round secret)) =
      second.finish delivery (.extract secret (second.extractRequest round secret)) := by
  have opened (reply : Signed ExtractReply) (key : Ed25519.PublicKey) :
      Envelope.extractLogged secret (first.extractRequest round secret).body reply key =
        Envelope.extractLogged secret (second.extractRequest round secret).body reply key := by
    apply Envelope.extractLogged_congr
    · rfl
    · exact same.username
  simp only [finish, finishExtract, same.identity, opened]

/-- Calls that are the same up to a token start alike. -/
theorem start?_alike (same : first.SameUser second) {firstCall secondCall : Call}
    (alike : firstCall.AgreesUpToToken secondCall) (randomness : Randomness) :
    Option.Rel (StartsAlike first second) (first.start? firstCall randomness)
      (second.start? secondCall randomness) := by
  have signature : Json.signatureName ∈ secretMembers := by decide
  have serverKey : first.identity.key = second.identity.key := by rw [same.identity]
  cases alike with
  | register =>
    have loginKey : "LoginKey" ∈ secretMembers := by decide
    refine .some ⟨Post.agreesUpTo_write ⟨fun _ => same.username, ?_, trivial⟩, ?_, rfl⟩
    · exact fun visible => absurd loginKey visible
    · intro delivery
      simp only [finish, same.identity]
  | verify firstToken secondToken =>
    have token : "Token" ∈ secretMembers := by decide
    refine .some ⟨Post.agreesUpTo_writeSigned signature ⟨fun _ => same.username, ?_, trivial⟩,
      ?_, rfl⟩
    · exact fun visible => absurd token visible
    · intro delivery
      simp only [finish, same.identity]
  | status =>
    cases drawn : draw? randomness with
    | none =>
      simp only [start?, drawn, Option.map_none]
      exact .none
    | some found =>
      simp only [start?, drawn, Option.map_some]
      refine .some ⟨Post.agreesUpTo_writeSigned signature ⟨fun _ => same.username,
        fun _ => serverKey, fun _ => rfl, trivial⟩, ?_, rfl⟩
      intro delivery
      simp only [finish, same.identity]
  | extract round =>
    have longTermKey : "UserLongTermKey" ∈ secretMembers := by decide
    cases drawn : draw? randomness with
    | none =>
      simp only [start?, drawn, Option.map_none]
      exact .none
    | some found =>
      simp only [start?, drawn, Option.map_some]
      refine .some ⟨Post.agreesUpTo_writeSigned signature ⟨fun _ => rfl, fun _ => same.username,
        fun _ => rfl, ?_, fun _ => serverKey, trivial⟩, ?_, rfl⟩
      · exact fun visible => absurd longTermKey visible
      · exact finish_extract_alike same round ⟨found.1⟩

/-- Steps that are the same up to a token do the same up to secret members. -/
theorem runStep_alike (same : first.SameUser second) {firstStep secondStep : Step}
    (alike : firstStep.AgreesUpToToken secondStep) (randomness : Randomness) :
    (first.runStep firstStep randomness).AgreesUpToSecrets
      (second.runStep secondStep randomness) := by
  have starts := start?_alike same alike.call randomness
  cases firstStarted : first.start? firstStep.call randomness with
  | none =>
    cases secondStarted : second.start? secondStep.call randomness with
    | none =>
      rw [runStep_of_none firstStarted, runStep_of_none secondStarted, alike.call.undrawn_eq]
      exact ⟨.none, rfl, rfl⟩
    | some found =>
      rw [firstStarted, secondStarted] at starts
      cases starts
  | some found =>
    cases secondStarted : second.start? secondStep.call randomness with
    | none =>
      rw [firstStarted, secondStarted] at starts
      cases starts
    | some other =>
      rw [firstStarted, secondStarted] at starts
      cases starts with
      | some startsAlike =>
        rw [runStep_of_some firstStarted, runStep_of_some secondStarted, alike.delivery]
        exact ⟨.some startsAlike.post, startsAlike.finish _, startsAlike.left⟩

/-- Sessions of steps that are the same up to tokens do the same up to secret members. -/
theorem run_alike (same : first.SameUser second) {firstSteps secondSteps : List Step}
    (alike : List.Forall₂ Step.AgreesUpToToken firstSteps secondSteps) (randomness : Randomness) :
    List.Forall₂ Record.AgreesUpToSecrets (first.run firstSteps randomness)
      (second.run secondSteps randomness) := by
  induction alike generalizing randomness with
  | nil => exact .nil
  | cons here _ ih =>
    have record := runStep_alike same here randomness
    rw [run, run]
    simp only [record.left]
    exact .cons record (ih _)

/-- A registration posts the username and the public key of the login seed, and nothing else goes
into its request. -/
theorem post_register (client : Client) (steps : List Step) (randomness : Randomness) {index : Nat}
    {step : Step} (inside : steps[index]? = some step) (isRegister : step.call = .register) :
    (client.run steps randomness)[index]?.map Record.post = some (some ⟨"register",
      Message.write (RegisterRequest.mk client.username client.loginKey)⟩) := by
  rw [getElem?_run, inside, Option.map_some, Option.map_some]
  rw [runStep_of_some (by rw [isRegister]; rfl)]
  rfl

/-- Take two sessions of clients that act for one user at one server, with the same random bytes and
the same steps up to the tokens, and the same things coming back. Whatever the login seeds, the
long-term keys and the tokens are, step for step they report the same, end with the same result and
leave the same random bytes, and post to the same paths with the same members, but for the values of
the four secret ones. And if the login seeds have one public key, registrations are posted alike. -/
theorem sessions_keep_secrets {first second : Client} (same : first.SameUser second)
    {firstSteps secondSteps : List Step}
    (alike : List.Forall₂ Step.AgreesUpToToken firstSteps secondSteps) (randomness : Randomness) :
    List.Forall₂ Record.AgreesUpToSecrets (first.run firstSteps randomness)
      (second.run secondSteps randomness) ∧
    (first.loginKey = second.loginKey → ∀ (index : Nat) (step : Step),
      firstSteps[index]? = some step → step.call = .register →
      (first.run firstSteps randomness)[index]?.map Record.post =
        (second.run secondSteps randomness)[index]?.map Record.post) := by
  refine ⟨run_alike same alike randomness, ?_⟩
  intro sameKey index step inside isRegister
  obtain ⟨bound, rfl⟩ := List.getElem?_eq_some_iff.mp inside
  have otherBound : index < secondSteps.length := alike.length_eq ▸ bound
  have otherIsRegister : secondSteps[index].call = .register := by
    have call : firstSteps[index].call.AgreesUpToToken secondSteps[index].call :=
      (alike.get bound otherBound).call
    rw [isRegister] at call
    generalize secondSteps[index].call = other at call
    cases call
    rfl
  rw [post_register first firstSteps randomness inside isRegister,
    post_register second secondSteps randomness (List.getElem?_eq_getElem otherBound)
      otherIsRegister, same.username, sameKey]

/-- Two clients with different login seeds, long-term keys and tokens end alike when a registration
is not answered, a token is refused and an extraction is answered with something that is no reply;
and a third with the login seed of the first registers as the first does. -/
theorem sessions_of_three_calls_keep_secrets :
    let server : ServerIdentity := ⟨"pkg.example:80", ⟨.zero 32⟩, rfl⟩
    let first : Client := ⟨server, "zoë", ⟨.ofNat 32 2⟩, ⟨.zero 32⟩⟩
    let second : Client := ⟨server, "zoë", ⟨.ofNat 32 3⟩, ⟨.ofNat 32 1⟩⟩
    let third : Client := ⟨server, "zoë", ⟨.ofNat 32 2⟩, ⟨.ofNat 32 1⟩⟩
    let steps (token : List UInt8) : List Step :=
      [⟨.register, .error .connection⟩, ⟨.verify token, .ok ⟨⟨403⟩, [0x7B]⟩⟩,
       ⟨.extract 7, .ok ⟨.success, [0x7B]⟩⟩]
    let randomness := List.replicate 32 7
    first.loginSeed ≠ second.loginSeed ∧ first.longTermKey ≠ second.longTermKey ∧
      List.Forall₂ Step.AgreesUpToToken (steps [1]) (steps [2, 3]) ∧
      List.Forall₂ Record.AgreesUpToSecrets (first.run (steps [1]) randomness)
        (second.run (steps [2, 3]) randomness) ∧
      (first.run (steps [1]) randomness)[0]?.map Record.post =
        (third.run (steps [2, 3]) randomness)[0]?.map Record.post := by
  intro server first second third steps randomness
  have alike : List.Forall₂ Step.AgreesUpToToken (steps [1]) (steps [2, 3]) :=
    .cons ⟨.register, rfl⟩ (.cons ⟨.verify _ _, rfl⟩ (.cons ⟨.extract 7, rfl⟩ .nil))
  have sameUser : first.SameUser second := ⟨rfl, rfl⟩
  have others : first.SameUser third := ⟨rfl, rfl⟩
  have sameKey : first.loginKey = third.loginKey :=
    congrArg Ed25519.Seed.publicKey (rfl : first.loginSeed = third.loginSeed)
  obtain ⟨secrets, -⟩ := sessions_keep_secrets sameUser alike randomness
  obtain ⟨-, registrations⟩ := sessions_keep_secrets others alike randomness
  exact ⟨by decide, by decide, alike, secrets, registrations sameKey 0 _ rfl rfl⟩

end Client

end RoundKey
