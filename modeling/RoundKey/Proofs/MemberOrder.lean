import RoundKey.Proofs.Json.Object
import RoundKey.Proofs.Json.Written
import RoundKey.Proofs.Message
import RoundKey.ServerError

/-!
# The order of members

A message is read from the members of an object that its fields name, each for itself. So the same
message is read from every object with the same members in another order, and from every object that
lacks some members that no field names, whatever their values are.
-/
namespace RoundKey

open RoundKey.Data

/-- A document is an object of members of another one in any order, where only members of other than
some names are left out. -/
def Rearranges (names : List String) (bytes bytes' : List UInt8) : Prop :=
  ∃ members rearranged dropped, Json.IsObject members bytes ∧ Json.IsObject rearranged bytes' ∧
    (rearranged ++ dropped).Perm members ∧ ∀ member ∈ dropped, member.1 ∉ names

variable {bytes bytes' : List UInt8}

section Plain

variable {M : Type} [Message M]

/-- The names of the fields of a message. -/
def Message.names (M : Type) [Message M] : List String := (schema M).fields.map Field.name

/-- A message is read exactly where its values are. -/
theorem Message.read_eq_ok_iff {message : M} :
    read bytes = .ok message ↔
      Json.whole (Json.readRecord (schema M)) bytes = .ok (toValues message) := by
  rw [Message.read]
  cases Json.whole (Json.readRecord (schema M)) bytes with
  | error fault => simp [Except.map]
  | ok values =>
    simp only [Except.map, Except.ok.injEq]
    constructor
    · rintro rfl
      exact (toValues_ofValues values).symm
    · rintro rfl
      exact ofValues_toValues message

/-- A plain message is read from a rearranged document exactly where it is read from the first. -/
theorem Message.read_of_rearranges (distinct : (names M).Nodup)
    (rearranges : Rearranges (names M) bytes bytes') {message : M} :
    read bytes = .ok message ↔ read bytes' = .ok message := by
  obtain ⟨members, rearranged, dropped, isObject, isObject', perm, others⟩ := rearranges
  have perm' := perm.map Json.plainOffer
  rw [List.map_append] at perm'
  rw [read_eq_ok_iff, read_eq_ok_iff, Json.readRecord_eq_ok_iff distinct isObject,
    Json.readRecord_eq_ok_iff distinct isObject']
  exact Values.offered_of_perm perm' (List.forall_mem_map.mpr others)

end Plain

section Signed

variable {M : Type} [Signable M]

/-- A signed message is read exactly where its signature and its values are. -/
theorem Signed.read_eq_ok_iff {signed : Signed M} :
    read bytes = .ok signed ↔ Json.whole (Json.readSigned (Message.schema M).fields) bytes =
      .ok (Message.toValues signed.body, signed.signature) := by
  rw [Signed.read]
  cases Json.whole (Json.readSigned (Message.schema M).fields) bytes with
  | error fault => simp [Except.map]
  | ok read =>
    obtain ⟨values, signature⟩ := read
    obtain ⟨body, signature'⟩ := signed
    simp only [Except.map, Except.ok.injEq, Signed.mk.injEq, Prod.mk.injEq]
    apply and_congr_left'
    constructor
    · rintro rfl
      exact (Message.toValues_ofValues values).symm
    · rintro rfl
      exact Message.ofValues_toValues body

/-- A signed message is read from a rearranged document if it is read from the first. -/
theorem Signed.read_of_rearranges (distinct : (Json.signatureName :: Message.names M).Nodup)
    (rearranges : Rearranges (Json.signatureName :: Message.names M) bytes bytes')
    {signed : Signed M} (reads : read bytes = .ok signed) : read bytes' = .ok signed := by
  obtain ⟨members, rearranged, dropped, isObject, isObject', perm, others⟩ := rearranges
  have perm' := perm.map Json.signedOffer
  rw [List.map_append] at perm'
  have others' : ∀ offer ∈ dropped.map Json.signedOffer,
      offer.name ∉ (Json.signatureField :: (Message.schema M).fields).map Field.name :=
    List.forall_mem_map.mpr others
  rw [read_eq_ok_iff, Json.readSigned_eq_ok_iff distinct isObject] at reads
  rw [read_eq_ok_iff, Json.readSigned_eq_ok_iff distinct isObject']
  obtain ⟨offered, pass⟩ := reads
  exact ⟨(Values.offered_of_perm perm' others').mp offered, pass.of_perm perm'⟩

/-- Every rearranged document of a signed message holds the same message, with the same canonical
bytes and the same verification result under every key. -/
def Signed.SurvivesRearranging (M : Type) [Signable M] : Prop :=
  ∀ bytes bytes' (signed : Signed M),
    Rearranges (Json.signatureName :: Message.names M) bytes bytes' → read bytes = .ok signed →
      ∃ arrived : Signed M, read bytes' = .ok arrived ∧ arrived = signed ∧
        canonical arrived.body = canonical signed.body ∧
        ∀ key, arrived.verifies key = signed.verifies key

/-- A signed message survives rearranging if the fields and the signature have names of their
own. -/
theorem Signed.survivesRearranging (distinct : (Json.signatureName :: Message.names M).Nodup) :
    SurvivesRearranging M := fun _ _ signed rearranges reads =>
  ⟨signed, read_of_rearranges distinct rearranges reads, rfl, rfl, fun _ => rfl⟩

end Signed

/-- A member that no message has, with a list as its value. -/
def foreign : String × List UInt8 := ("Extra", [0x5B, 0x31, 0x5D])

/-- Its value is a list of a number. -/
theorem isValue_foreign : Json.IsValue foreign.2 := by
  have one : Json.IsNumber [0x31] := ⟨[], [0x31], [], [], rfl, .inl rfl,
    ⟨⟨by decide, by decide +kernel⟩, by decide⟩, .inl rfl, .inl rfl⟩
  have item : Json.IsForm (.part false) [0x31] :=
    @Json.IsForm.item [] _ [] nofun (.number one) nofun
  exact @Json.IsForm.compound false _ (.last item)

/-- The members of a plain message. -/
def Message.members {M : Type} [Message M] (message : M) : List (String × List UInt8) :=
  Json.memberTexts (schema M).fields (toValues message)

/-- The members of a signed message. -/
def Signed.members {M : Type} [Signable M] (signed : Signed M) : List (String × List UInt8) :=
  Message.members signed.body ++
    [(Json.signatureName, Json.writeScalar Json.signatureKind signed.signature)]

/-- Members in reverse order are members rearranged, also without a further one. -/
theorem rearranges_reverse {names : List String} {members : List (String × List UInt8)}
    (values : ∀ member ∈ members, Json.IsValue member.2) (unknown : foreign.1 ∉ names) :
    Rearranges names (Json.writeMap (foreign :: members)) (Json.writeMap members.reverse) := by
  refine ⟨foreign :: members, members.reverse, [foreign],
    Json.isObject_writeMap (List.forall_mem_cons.mpr ⟨isValue_foreign, values⟩),
    Json.isObject_writeMap fun member inside => values member (List.mem_reverse.mp inside), ?_, ?_⟩
  · exact (List.perm_append_singleton foreign members.reverse).trans
      (.cons foreign members.reverse_perm)
  · exact List.forall_mem_singleton.mpr unknown

/-- The members of a signed message are values. -/
theorem Signed.isValue_of_mem_members {M : Type} [Signable M] (signed : Signed M) :
    ∀ member ∈ signed.members, Json.IsValue member.2 :=
  List.forall_mem_append.mpr ⟨Json.isValue_of_mem_memberTexts,
    List.forall_mem_singleton.mpr (Json.isValue_writeScalar Json.signatureKind signed.signature)⟩

/-- Every message that a document holds is held by every document with the same members in any
order, and without members that are no fields of it. Of a signed message the canonical bytes and the
verification result under every key stay the same too. -/
theorem Message.order_and_other_members_do_not_matter :
    (∀ bytes bytes' (request : RegisterRequest), Rearranges (names RegisterRequest) bytes bytes' →
      read bytes = .ok request → read bytes' = .ok request) ∧
    (∀ bytes bytes' (error : ServerError), Rearranges (names ServerError) bytes bytes' →
      read bytes = .ok error → read bytes' = .ok error) ∧
    Signed.SurvivesRearranging VerifyRequest ∧ Signed.SurvivesRearranging StatusRequest ∧
    Signed.SurvivesRearranging ExtractRequest ∧ Signed.SurvivesRearranging ExtractReply := by
  refine ⟨fun _ _ _ rearranges => (read_of_rearranges (by decide) rearranges).mp,
    fun _ _ _ rearranges => (read_of_rearranges (by decide) rearranges).mp, ?_, ?_, ?_, ?_⟩ <;>
  exact Signed.survivesRearranging (by decide)

/-- Messages are read from their members in reverse order, as they are from their members behind one
that they do not know. -/
theorem Message.reversed_members_are_read :
    let key : Ed25519.PublicKey := ⟨.ofNat 32 1⟩
    let signature : Ed25519.Signature := ⟨.ofNat 64 7⟩
    let register : RegisterRequest := ⟨"zoë", key⟩
    let error : ServerError := ⟨.expiredToken, "no"⟩
    let verify : Signed VerifyRequest := ⟨⟨"zoë", [1, 2, 3]⟩, signature⟩
    let status : Signed StatusRequest := ⟨⟨"zoë", key, .zero 32⟩, signature⟩
    let extract : Signed ExtractRequest := ⟨⟨4294967295, "zoë", ⟨.zero 32⟩, key, key⟩, signature⟩
    let reply : Signed ExtractReply := ⟨⟨4294967295, "zoë", [1, 2, 3], []⟩, signature⟩
    read (Json.writeMap (members register).reverse) = .ok register ∧
    read (Json.writeMap (members error).reverse) = .ok error ∧
    (∃ arrived, Signed.read (Json.writeMap verify.members.reverse) = .ok arrived ∧
      arrived = verify) ∧
    (∃ arrived, Signed.read (Json.writeMap status.members.reverse) = .ok arrived ∧
      arrived = status) ∧
    (∃ arrived, Signed.read (Json.writeMap extract.members.reverse) = .ok arrived ∧
      arrived = extract) ∧
    ∃ arrived, Signed.read (Json.writeMap reply.members.reverse) = .ok arrived ∧
      arrived = reply := by
  intro key signature register error verify status extract reply
  obtain ⟨registers, errors, verifies, asks, extracts, replies⟩ :=
    Message.order_and_other_members_do_not_matter
  have read {M : Type} [Signable M] (survives : Signed.SurvivesRearranging M) (signed : Signed M)
      (unknown : foreign.1 ∉ Json.signatureName :: names M)
      (reads : (Signed.read (Json.writeMap (foreign :: signed.members))).toOption = some signed) :
      ∃ arrived, Signed.read (Json.writeMap signed.members.reverse) = .ok arrived ∧
        arrived = signed := by
    obtain ⟨arrived, reads, same, -⟩ := survives _ _ signed
      (rearranges_reverse signed.isValue_of_mem_members unknown) (toOption_eq_some_iff.mp reads)
    exact ⟨arrived, reads, same⟩
  refine ⟨registers _ _ register (rearranges_reverse Json.isValue_of_mem_memberTexts (by decide))
      (toOption_eq_some_iff.mp (by decide +kernel)),
    errors _ _ error (rearranges_reverse Json.isValue_of_mem_memberTexts (by decide))
      (toOption_eq_some_iff.mp (by decide +kernel)),
    read verifies verify (by decide) (by decide +kernel),
    read asks status (by decide) (by decide +kernel),
    read extracts extract (by decide) (by decide +kernel),
    read replies reply (by decide) (by decide +kernel)⟩

end RoundKey
