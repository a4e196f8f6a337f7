import RoundKey.Message

/-!
# Unambiguous canonical bytes

What a signature covers determines the message it was made for. Every field of the canonical
bytes can be told from whatever follows it: a number has four bytes, and the length in front of a
byte string says where the string ends. The name of a structure is such a byte string too, and it
fixes which fields follow. So canonical bytes that begin other canonical bytes are those of the
same message, of the same type and with the same fields, although the name of one structure is
the front of the name of another.
-/
namespace RoundKey

/-- Two numbers below `256 ^ width` with the same bytes are equal. -/
theorem bigEndian_inj {width first second : Nat} (firstSmall : first < Nat.pow 256 width)
    (secondSmall : second < Nat.pow 256 width)
    (same : bigEndian width first = bigEndian width second) : first = second := by
  rw [← ofBigEndian_bigEndian firstSmall, same, ofBigEndian_bigEndian secondSmall]

/-- Where one list begins another, their fronts of one length are equal, and what follows in the
one begins what follows in the other. -/
theorem append_prefix_append {α : Type} {front front' rest rest' : List α}
    (sameLength : front.length = front'.length) (begins : front ++ rest <+: front' ++ rest') :
    front = front' ∧ rest <+: rest' := by
  obtain ⟨tail, whole⟩ := begins
  rw [List.append_assoc] at whole
  obtain ⟨same, follows⟩ := List.append_inj whole sameLength
  exact ⟨same, tail, follows⟩

namespace CanonicalField

/-- Whether a field is a number. -/
def isWord : CanonicalField → Bool
  | word _ => true
  | bytes _ => false

/-- The length of a byte string fits the eight bytes in front of it. -/
def IsShort : CanonicalField → Prop
  | word _ => True
  | bytes value => value.length < Nat.pow 2 64

/-- A field is determined by the front of any bytes that start with it. -/
theorem encode_append_prefix {first second : CanonicalField} {rest rest' : List UInt8}
    (sameKind : first.isWord = second.isWord) (firstShort : first.IsShort)
    (secondShort : second.IsShort) (begins : first.encode ++ rest <+: second.encode ++ rest') :
    first = second ∧ rest <+: rest' := by
  cases first with
  | word value =>
    cases second with
    | bytes value' => simp [isWord] at sameKind
    | word value' =>
      obtain ⟨same, follows⟩ := append_prefix_append (by simp [encode]) begins
      have number := bigEndian_inj value.toNat_lt value'.toNat_lt same
      exact ⟨congrArg word (UInt32.toNat_inj.mp number), follows⟩
  | bytes value =>
    cases second with
    | word value' => simp [isWord] at sameKind
    | bytes value' =>
      simp only [encode, List.append_assoc] at begins
      obtain ⟨same, follows⟩ := append_prefix_append (by simp) begins
      have sameLength : value.length = value'.length :=
        bigEndian_inj (show value.length < Nat.pow 256 8 from firstShort) secondShort same
      obtain ⟨sameValue, follows⟩ := append_prefix_append sameLength follows
      exact ⟨congrArg bytes sameValue, follows⟩

/-- Fields of the same kinds in the same order are determined by the front of any bytes that
start with them. -/
theorem flatMap_encode_prefix {first second : List CanonicalField}
    (sameKinds : first.map isWord = second.map isWord) (firstShort : ∀ field ∈ first, field.IsShort)
    (secondShort : ∀ field ∈ second, field.IsShort)
    (begins : first.flatMap encode <+: second.flatMap encode) : first = second := by
  induction first generalizing second with
  | nil => exact (List.map_eq_nil_iff.mp sameKinds.symm).symm
  | cons field fields ih =>
    cases second with
    | nil => simp at sameKinds
    | cons field' fields' =>
      rw [List.forall_mem_cons] at firstShort secondShort
      simp only [List.map_cons, List.cons.injEq] at sameKinds
      obtain ⟨rfl, follows⟩ :=
        encode_append_prefix sameKinds.1 firstShort.1 secondShort.1 begins
      rw [ih sameKinds.2 firstShort.2 secondShort.2 follows]

end CanonicalField

/-- Canonical bytes that begin others are those of a structure of the same name, and the bytes of
its fields begin those of the fields of the other. -/
theorem canonicalBytes_prefix {context context' : String} {fields fields' : List CanonicalField}
    (short : (CanonicalField.text context).IsShort)
    (short' : (CanonicalField.text context').IsShort)
    (begins : canonicalBytes context fields <+: canonicalBytes context' fields') :
    context = context' ∧
      fields.flatMap CanonicalField.encode <+: fields'.flatMap CanonicalField.encode := by
  have sameKind : (CanonicalField.text context).isWord = (CanonicalField.text context').isWord :=
    rfl
  obtain ⟨sameName, follows⟩ :=
    CanonicalField.encode_append_prefix sameKind short short' begins
  exact ⟨Text.utf8_injective (CanonicalField.bytes.inj sameName), follows⟩

/-- A message of any type that is signed. -/
inductive SignableMessage where
  /-- A proof of ownership. -/
  | verify (message : VerifyRequest)
  /-- A question whether the server knows the client. -/
  | status (message : StatusRequest)
  /-- A request for the key of a round. -/
  | extract (message : ExtractRequest)
  /-- The reply that carries a key. -/
  | reply (message : ExtractReply)
deriving DecidableEq

namespace SignableMessage

/-- The canonical bytes of the message. -/
def canonical : SignableMessage → List UInt8
  | verify message => RoundKey.canonical message
  | status message => RoundKey.canonical message
  | extract message => RoundKey.canonical message
  | reply message => RoundKey.canonical message

/-- Every text and byte string whose length the message does not fix has a length that fits
eight bytes. -/
def IsShort : SignableMessage → Prop
  | verify message => (Text.utf8 message.username).length < Nat.pow 2 64 ∧
      message.token.length < Nat.pow 2 64
  | status message => (Text.utf8 message.username).length < Nat.pow 2 64
  | extract message => (Text.utf8 message.username).length < Nat.pow 2 64
  | reply message => (Text.utf8 message.username).length < Nat.pow 2 64 ∧
      message.sealedKey.length < Nat.pow 2 64 ∧ message.identitySignature.length < Nat.pow 2 64

/-- The name of the structure. -/
def context : SignableMessage → String
  | verify _ => Signable.context VerifyRequest
  | status _ => Signable.context StatusRequest
  | extract _ => Signable.context ExtractRequest
  | reply _ => Signable.context ExtractReply

/-- The fields of the structure. -/
def fields : SignableMessage → List CanonicalField
  | verify message => Signable.canonicalFields message
  | status message => Signable.canonicalFields message
  | extract message => Signable.canonicalFields message
  | reply message => Signable.canonicalFields message

/-- The canonical bytes of any message are made from its name and its fields. -/
theorem canonical_eq (message : SignableMessage) :
    message.canonical = canonicalBytes message.context message.fields := by
  cases message <;> rfl

/-- The name of every structure is short. -/
theorem isShort_context (message : SignableMessage) :
    (CanonicalField.text message.context).IsShort := by
  cases message with
  | verify => exact (by decide : (Text.utf8 "PKGVerify").length < Nat.pow 2 64)
  | status => exact (by decide : (Text.utf8 "PKGStatus").length < Nat.pow 2 64)
  | extract => exact (by decide : (Text.utf8 "PKGExtract").length < Nat.pow 2 64)
  | reply => exact (by decide : (Text.utf8 "PKGExtractReply").length < Nat.pow 2 64)

/-- Every field of a message with short texts and byte strings is short. -/
theorem isShort_fields {message : SignableMessage} (short : message.IsShort) :
    ∀ field ∈ message.fields, field.IsShort := by
  cases message <;>
    simp_all [IsShort, fields, Signable.canonicalFields, CanonicalField.IsShort,
      CanonicalField.text, Octets.length_eq]

/-- The name of a structure fixes the kinds of its fields. -/
theorem isWord_fields {first second : SignableMessage} (sameName : first.context = second.context) :
    first.fields.map CanonicalField.isWord = second.fields.map CanonicalField.isWord := by
  cases first <;> cases second <;>
    simp_all [context, fields, Signable.context, Signable.canonicalFields, CanonicalField.isWord,
      CanonicalField.text]

/-- A message is determined by the name of its structure and its fields. -/
theorem eq_of_fields {first second : SignableMessage} (sameName : first.context = second.context)
    (sameFields : first.fields = second.fields) : first = second := by
  rcases first with ⟨⟨⟩⟩ | ⟨⟨⟩⟩ | ⟨⟨⟩⟩ | ⟨⟨⟩⟩ <;>
    rcases second with ⟨⟨⟩⟩ | ⟨⟨⟩⟩ | ⟨⟨⟩⟩ | ⟨⟨⟩⟩ <;>
    simp_all [context, fields, Signable.context, Signable.canonicalFields, CanonicalField.text]

/-- The canonical bytes of one message begin those of another exactly if the two are the same
message: of one type, with the same value in every field. -/
theorem canonical_prefix_iff {first second : SignableMessage} (firstShort : first.IsShort)
    (secondShort : second.IsShort) : first.canonical <+: second.canonical ↔ first = second := by
  constructor
  · intro begins
    rw [canonical_eq, canonical_eq] at begins
    obtain ⟨sameName, follows⟩ :=
      canonicalBytes_prefix first.isShort_context second.isShort_context begins
    have sameFields := CanonicalField.flatMap_encode_prefix (isWord_fields sameName)
      (isShort_fields firstShort) (isShort_fields secondShort) follows
    exact eq_of_fields sameName sameFields
  · rintro rfl
    exact List.prefix_rfl

/-- The name of a request begins the name of its reply, but its canonical bytes do not begin those
of the reply, even where both are for one round and one username. -/
theorem canonical_request_not_prefix_reply :
    let request : SignableMessage := extract ⟨7, "alice", ⟨.zero 32⟩, ⟨.zero 32⟩, ⟨.zero 32⟩⟩
    let answer : SignableMessage := reply ⟨7, "alice", List.replicate 96 0, List.replicate 96 0⟩
    request.IsShort ∧ answer.IsShort ∧ ¬request.canonical <+: answer.canonical := by
  intro request answer
  have requestShort : request.IsShort := (by decide : (Text.utf8 "alice").length < Nat.pow 2 64)
  have answerShort : answer.IsShort := ⟨by decide, by decide, by decide⟩
  exact ⟨requestShort, answerShort, fun begins =>
    SignableMessage.noConfusion ((canonical_prefix_iff requestShort answerShort).mp begins)⟩

end SignableMessage

end RoundKey
