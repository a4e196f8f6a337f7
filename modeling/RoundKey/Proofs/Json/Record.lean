import RoundKey.Json.Record
import RoundKey.Proofs.Data.Record
import RoundKey.Proofs.Data.Scalar
import RoundKey.Proofs.Json.Number
import RoundKey.Proofs.Json.Text

/-!
# Reading back records in JSON

A written value is read back whole as long as no digit, point or exponent follows it, and inside
a record a comma or a bracket does. A plain record is read back as its members come, and a signed
record is read back with its signature: in both, each member fills the slot of its own field and
passes by all others, since no two fields share a name.
-/
namespace RoundKey.Json

open RoundKey.Data

/-- A text is found as that text. -/
theorem readFound_writeText (depth : Nat) (text : String) (rest : List UInt8) :
    readFound depth (writeText text ++ rest) = .ok (.text text, rest) := by
  have read := readText_utf8 text rest
  simp [readFound, writeText, writeBytes, skipBlank, isBlank, readPlain, read, Except.map]

/-- A number is written with a digit in front. -/
theorem writeWord_eq_cons (word : UInt32) :
    ∃ first later, writeWord word = first :: later ∧ isDigit first = true := by
  have written : writeWord word = (Nat.toDigits 10 word.toNat).map digitByte := rfl
  cases digits : Nat.toDigits 10 word.toNat with
  | nil => exact absurd digits Nat.toDigits_ne_nil
  | cons first later =>
    have decimal := isDigit_of_mem_toDigits word.toNat first (by simp [digits])
    rw [written, digits, List.map_cons]
    exact ⟨digitByte first, later.map digitByte, rfl, (isDigit_digitByte decimal).1⟩

/-- A digit is no blank, no quote and no opening bracket. -/
theorem plain_of_isDigit {byte : UInt8} (decimal : isDigit byte = true) :
    isBlank byte = false ∧ byte ≠ 0x22 ∧ byte ≠ 0x5B ∧ byte ≠ 0x7B := by
  have noBlank : isBlank byte = false := by
    apply Bool.eq_false_iff.mpr
    intro blank
    simp only [isBlank, Bool.or_eq_true, beq_iff_eq] at blank
    rcases blank with ((rfl | rfl) | rfl) | rfl <;> exact absurd decimal (by decide)
  refine ⟨noBlank, ?_, ?_, ?_⟩ <;> rintro rfl <;> exact absurd decimal (by decide)

/-- A number is found as that whole number. -/
theorem readFound_writeWord (depth : Nat) (word : UInt32) {rest : List UInt8}
    (ends : EndsNumber rest) :
    readFound depth (writeWord word ++ rest) = .ok (.integer word.toNat, rest) := by
  have read := readNumber_writeWord word ends
  obtain ⟨first, later, written, decimal⟩ := writeWord_eq_cons word
  obtain ⟨noBlank, noQuote, noList, noMap⟩ := plain_of_isDigit decimal
  rw [written, List.cons_append] at read ⊢
  simp [readFound, skipBlank, noBlank, noList, noMap, readPlain, noQuote, decimal, read]

/-- A written binary value is the text of its characters. -/
theorem writeScalar_binary (encoding : Encoding) (content : Content) (value : content.Value) :
    writeScalar (.binary encoding content) value =
      writeText (Text.ofAscii (content.encode encoding value)) := by
  rw [writeScalar, writeText, Content.utf8_ofAscii_encode]

/-- What is found of a written value is what the value is shown as. -/
theorem readFound_writeScalar (depth : Nat) (kind : Scalar) (value : kind.Value)
    {rest : List UInt8} (ends : EndsNumber rest) :
    readFound depth (writeScalar kind value ++ rest) = .ok (kind.shown value, rest) := by
  cases kind with
  | text => exact readFound_writeText depth value rest
  | word => exact readFound_writeWord depth value ends
  | binary encoding content =>
    rw [writeScalar_binary]
    exact readFound_writeText depth _ rest
  | code => exact readFound_writeText depth _ rest

/-- A text is read back. -/
theorem readString_writeText (wanted : Wanted) (text : String) (rest : List UInt8) :
    readString wanted (writeText text ++ rest) = .ok (text, rest) := by
  have read := readText_utf8 text rest
  simp [readString, writeText, writeBytes, skipBlank, isBlank, read]

/-- A valid binary value is read back. -/
theorem readScalar_binary (encoding : Encoding) {content : Content} {value : content.Value}
    (valid : content.IsValid value) (rest : List UInt8) :
    readScalar (.binary encoding content) (writeScalar (.binary encoding content) value ++ rest) =
      .ok (value, rest) := by
  rw [writeScalar_binary]
  simp only [readScalar, readString_writeText, Content.utf8_ofAscii_encode,
    Content.decode_encode encoding valid]

/-- A number is read as the value that is found of it. -/
theorem readUInt32_eq {byte : UInt8} {later rest : List UInt8} {found : Found} {word : UInt32}
    (decimal : isDigit byte = true) (read : readNumber (byte :: later) = .ok (found, rest))
    (fits : Scalar.ofFound .word found = .ok word) :
    readUInt32 (byte :: later) = .ok (word, rest) := by
  obtain ⟨noBlank, -⟩ := plain_of_isDigit decimal
  simp [readUInt32, skipBlank, noBlank, decimal, read, fits]

/-- A number is read back. -/
theorem readUInt32_writeWord (word : UInt32) {rest : List UInt8} (ends : EndsNumber rest) :
    readUInt32 (writeWord word ++ rest) = .ok (word, rest) := by
  have read := readNumber_writeWord word ends
  have valid : Scalar.IsValid .word word := trivial
  obtain ⟨first, later, written, decimal⟩ := writeWord_eq_cons word
  rw [written, List.cons_append] at read ⊢
  exact readUInt32_eq decimal read (Scalar.ofFound_shown valid)

/-- A failure class is read back from its name. -/
theorem readCode_writeText (code : ErrorCode) (rest : List UInt8) :
    readCode (writeText code.name ++ rest) = .ok (code, rest) := by
  have read := readText_utf8 code.name rest
  simp [readCode, writeText, writeBytes, skipBlank, isBlank, read, Except.map]

/-- A valid value is read back. -/
theorem readScalar_writeScalar {kind : Scalar} {value : kind.Value} (valid : kind.IsValid value)
    {rest : List UInt8} (ends : EndsNumber rest) :
    readScalar kind (writeScalar kind value ++ rest) = .ok (value, rest) := by
  cases kind with
  | text => exact readString_writeText .text value rest
  | word => exact readUInt32_writeWord value ends
  | binary encoding content => exact readScalar_binary encoding valid rest
  | code => exact readCode_writeText value rest

/-- Members with a comma before each, except before the first of a map. -/
def membersFrom : (first : Bool) → List (String × List UInt8) → List UInt8
  | _, [] => []
  | first, member :: members =>
    (if first then [] else [0x2C]) ++ writeMember member ++ membersFrom false members

/-- Members with commas between them have a comma before each but the first. -/
theorem writeMembers_eq (members : List (String × List UInt8)) :
    writeMembers members = membersFrom true members := by
  induction members with
  | nil => rfl
  | cons member members ih =>
    cases members with
    | nil => simp [writeMembers, membersFrom]
    | cons next members => simp_all [writeMembers, membersFrom]

/-- A map ends at its closing bracket. -/
theorem readMember_close (first : Bool) (rest : List UInt8) :
    readMember first (0x7D :: rest) = .ok (.close rest) := by
  simp [readMember, skipBlank, isBlank]

/-- The name of a written member is read back, up to its colon. -/
theorem readMember_writeMember (first : Bool) (member : String × List UInt8)
    (rest : List UInt8) :
    readMember first ((if first then [] else [0x2C]) ++ writeMember member ++ rest) =
      .ok (.named member.1 (0x3A :: (member.2 ++ rest))) := by
  have read := readText_utf8 member.1 (0x3A :: (member.2 ++ rest))
  cases first <;>
    simp [readMember, writeMember, writeText, writeBytes, skipBlank, isBlank, read, Except.map]

/-- What follows a value of a map ends a number. -/
theorem endsNumber_membersFrom (members : List (String × List UInt8)) (rest : List UInt8) :
    EndsNumber (membersFrom false members ++ 0x7D :: rest) := by
  have plain (byte : UInt8) (bracket : byte = 0x2C ∨ byte = 0x7D) :
      isDigit byte = false ∧ byte ≠ 0x2E ∧ byte ≠ 0x65 ∧ byte ≠ 0x45 := by
    rcases bracket with rfl | rfl <;> decide
  intro byte first
  apply plain
  cases members <;> simp_all [membersFrom]

/-- What is found of the members of a record. -/
def shownMembers : (fields : List (Field Scalar.Value)) → Values fields → List (String × Found)
  | [], () => []
  | field :: fields, (value, values) =>
    (field.name, field.kind.shown value) :: shownMembers fields values

/-- A member that is no signature is found, and those after it as they would be. -/
theorem readMembers_writeMember {name : String} (other : name ≠ signatureName) (kind : Scalar)
    (value : kind.Value) (fuel : Nat) (first : Bool) (signature : Option Ed25519.Signature)
    {rest : List UInt8} (ends : EndsNumber rest) :
    readMembers (fuel + 1) first signature
        ((if first then [] else [0x2C]) ++ writeMember (name, writeScalar kind value) ++ rest) =
      (readMembers fuel false signature rest).map fun read =>
        ((read.1.1, (name, kind.shown value) :: read.1.2), read.2) := by
  rw [readMembers, readMember_writeMember]
  have colon : readColon (0x3A :: (writeScalar kind value ++ rest)) =
      .ok (writeScalar kind value ++ rest) := rfl
  simp only [if_neg other, colon, readFound_writeScalar depthLimit kind value ends]
  cases readMembers fuel false signature rest <;> rfl

/-- A signature that is the last member is read, and the record ends. -/
theorem readMembers_signature (fuel : Nat) (first : Bool) (signature : Ed25519.Signature)
    (rest : List UInt8) :
    readMembers (fuel + 2) first none
        (membersFrom first [(signatureName, writeScalar signatureKind signature)] ++
          0x7D :: rest) =
      .ok ((some signature, []), rest) := by
  have other : Content.signature ≠ .publicKey := by decide
  have colon : readColon (0x3A :: (writeScalar signatureKind signature ++ 0x7D :: rest)) =
      .ok (writeScalar signatureKind signature ++ 0x7D :: rest) := rfl
  have read : readScalar signatureKind (writeScalar signatureKind signature ++ 0x7D :: rest) =
      .ok (signature, 0x7D :: rest) :=
    readScalar_binary .base64 (Content.isValid_of_ne_publicKey other signature) _
  rw [readMembers, membersFrom, membersFrom, List.append_nil, readMember_writeMember]
  simp only [↓reduceIte, colon, read]
  rw [readMembers, readMember_close]

/-- The members of a signed record are found, and its signature is read, if no field has the name
of the signature and there is fuel for each member and the closing bracket. -/
theorem readMembers_membersFrom {fields : List (Field Scalar.Value)}
    (unsigned : ∀ field ∈ fields, field.name ≠ signatureName) (values : Values fields)
    (signature : Ed25519.Signature) {fuel : Nat} (enough : fields.length + 2 ≤ fuel)
    (first : Bool) (rest : List UInt8) :
    readMembers fuel first none
        (membersFrom first (memberTexts fields values ++
          [(signatureName, writeScalar signatureKind signature)]) ++ 0x7D :: rest) =
      .ok ((some signature, shownMembers fields values), rest) := by
  induction fields generalizing fuel first with
  | nil =>
    obtain ⟨fuel, rfl⟩ : ∃ less, fuel = less + 2 := ⟨fuel - 2, by simp at enough; omega⟩
    exact readMembers_signature fuel first signature rest
  | cons field fields ih =>
    obtain ⟨value, values⟩ := values
    rw [List.length_cons] at enough
    rw [List.forall_mem_cons] at unsigned
    obtain ⟨fuel, rfl⟩ : ∃ less, fuel = less + 1 := ⟨fuel - 1, by omega⟩
    rw [memberTexts, List.cons_append, membersFrom, List.append_assoc,
      readMembers_writeMember unsigned.1 _ _ _ _ _ (endsNumber_membersFrom _ rest),
      ih unsigned.2 values (by omega) false]
    rfl

/-- What is found of the member of an entry. -/
def entryFound (entry : Entry Scalar.Value) : String × Found :=
  (entry.name, entry.kind.shown entry.value)

/-- The members of a record are found as its entries. -/
theorem shownMembers_eq (fields : List (Field Scalar.Value)) (values : Values fields) :
    shownMembers fields values = (Values.entries fields values).map entryFound := by
  induction fields with
  | nil => rfl
  | cons field fields ih =>
    obtain ⟨value, values⟩ := values
    rw [shownMembers, Values.entries, List.map_cons, ih]
    rfl

/-- Entries that have been found fill the slots that are left, in whatever order they come, if no
two fields share a name. -/
theorem placeMembers_map_entryFound {fields : List (Field Scalar.Value)} {values : Values fields}
    (distinct : (fields.map Field.name).Nodup) (valid : values.All Scalar.IsValid)
    {entries : List (Entry Scalar.Value)}
    (inside : ∀ entry ∈ entries, entry ∈ Values.entries fields values)
    (apart : (entries.map Entry.name).Nodup) :
    placeMembers fields (Slots.except (entries.map Entry.name) fields values)
        (entries.map entryFound) =
      .ok (Slots.full fields values) := by
  induction entries with
  | nil => rw [List.map_nil, List.map_nil, Slots.except_nil, placeMembers]
  | cons entry entries ih =>
    rw [List.forall_mem_cons] at inside
    rw [List.map_cons, List.nodup_cons] at apart
    have found : Scalar.ofFound entry.kind (entry.kind.shown entry.value) = .ok entry.value :=
      Scalar.ofFound_shown (Values.all_iff.mp valid entry inside.1)
    rw [List.map_cons, List.map_cons, placeMembers]
    simp only [entryFound]
    rw [Slots.place_except distinct inside.1 apart.1 (by rw [found]; rfl)]
    exact ih inside.2 apart.2

/-- The members of a record fill every slot with its value, if no two fields share a name. -/
theorem placeMembers_shownMembers {fields : List (Field Scalar.Value)} {values : Values fields}
    (distinct : (fields.map Field.name).Nodup) (valid : values.All Scalar.IsValid) :
    placeMembers fields (Slots.empty fields) (shownMembers fields values) =
      .ok (Slots.full fields values) := by
  rw [shownMembers_eq, ← Slots.except_entries fields values]
  exact placeMembers_map_entryFound distinct valid (fun _ inside => inside)
    (Values.map_name_entries fields values ▸ distinct)

/-- Members have at least one byte each. -/
theorem length_le_membersFrom (first : Bool) (members : List (String × List UInt8)) :
    members.length ≤ (membersFrom first members).length := by
  induction members generalizing first with
  | nil => exact Nat.zero_le _
  | cons member members ih =>
    have later := ih false
    simp only [membersFrom, writeMember, List.length_append, List.length_cons]
    omega

/-- A record has one member for each field. -/
theorem length_memberTexts (fields : List (Field Scalar.Value)) (values : Values fields) :
    (memberTexts fields values).length = fields.length := by
  induction fields with
  | nil => rfl
  | cons field fields ih => simp [memberTexts, ih]

/-- A map is an opening bracket, its members, and a closing bracket. -/
theorem writeMap_append (members : List (String × List UInt8)) (rest : List UInt8) :
    writeMap members ++ rest = 0x7B :: (membersFrom true members ++ 0x7D :: rest) := by
  rw [writeMap, writeMembers_eq]
  simp

/-- A signed record is read back whatever follows it, if its fields have names of their own and
its values are valid. -/
theorem readSigned_writeSigned {fields : List (Field Scalar.Value)} {values : Values fields}
    (distinct : (signatureName :: fields.map Field.name).Nodup)
    (valid : values.All Scalar.IsValid) (signature : Ed25519.Signature) (rest : List UInt8) :
    readSigned fields (writeSigned fields values signature ++ rest) =
      .ok ((values, signature), rest) := by
  obtain ⟨apart, distinct⟩ := List.nodup_cons.mp distinct
  have unsigned : ∀ field ∈ fields, field.name ≠ signatureName := fun field inside same =>
    apart (same ▸ List.mem_map_of_mem inside)
  let members := memberTexts fields values ++
    [(signatureName, writeScalar signatureKind signature)]
  have written : writeSigned fields values signature ++ rest =
      0x7B :: (membersFrom true members ++ 0x7D :: rest) := writeMap_append members rest
  have enough :
      fields.length + 2 ≤ (0x7B :: (membersFrom true members ++ 0x7D :: rest)).length := by
    have long := length_le_membersFrom true members
    simp only [members, List.length_append, length_memberTexts, List.length_cons,
      List.length_nil] at long ⊢
    omega
  have read := readMembers_membersFrom unsigned values signature enough true rest
  have placed := placeMembers_shownMembers distinct valid
  rw [written, readSigned, skipBlank, if_neg (by decide)]
  simp only [↓reduceIte, members, read, ofMembers, placed, Slots.finish_full]

/-- The written member of an entry. -/
def entryText (entry : Entry Scalar.Value) : String × List UInt8 :=
  (entry.name, writeScalar entry.kind entry.value)

/-- The members of a record are its written entries. -/
theorem memberTexts_eq (fields : List (Field Scalar.Value)) (values : Values fields) :
    memberTexts fields values = (Values.entries fields values).map entryText := by
  induction fields with
  | nil => rfl
  | cons field fields ih =>
    obtain ⟨value, values⟩ := values
    rw [memberTexts, Values.entries, List.map_cons, ih]
    rfl

/-- Written entries fill the slots that are left, in whatever order they come, if no two fields
share a name and there is fuel for each member and the closing bracket. -/
theorem fillSlots_membersFrom {fields : List (Field Scalar.Value)} {values : Values fields}
    (distinct : (fields.map Field.name).Nodup) (valid : values.All Scalar.IsValid)
    {entries : List (Entry Scalar.Value)}
    (inside : ∀ entry ∈ entries, entry ∈ Values.entries fields values)
    (apart : (entries.map Entry.name).Nodup) {fuel : Nat} (enough : entries.length + 1 ≤ fuel)
    (first : Bool) (rest : List UInt8) :
    fillSlots fields fuel first (Slots.except (entries.map Entry.name) fields values)
        (membersFrom first (entries.map entryText) ++ 0x7D :: rest) =
      .ok (Slots.full fields values, rest) := by
  induction entries generalizing fuel first with
  | nil =>
    obtain ⟨fuel, rfl⟩ : ∃ less, fuel = less + 1 := ⟨fuel - 1, by simp at enough; omega⟩
    rw [fillSlots, List.map_nil, membersFrom, List.nil_append, readMember_close, List.map_nil,
      Slots.except_nil]
  | cons entry entries ih =>
    rw [List.length_cons] at enough
    rw [List.forall_mem_cons] at inside
    rw [List.map_cons, List.nodup_cons] at apart
    obtain ⟨fuel, rfl⟩ : ∃ less, fuel = less + 1 := ⟨fuel - 1, by omega⟩
    have colon (bytes : List UInt8) : readColon (0x3A :: bytes) = .ok bytes := rfl
    have read : readScalar entry.kind ((entryText entry).2 ++
          (membersFrom false (entries.map entryText) ++ 0x7D :: rest)) =
        .ok (entry.value, membersFrom false (entries.map entryText) ++ 0x7D :: rest) :=
      readScalar_writeScalar (Values.all_iff.mp valid entry inside.1)
        (endsNumber_membersFrom _ rest)
    rw [List.map_cons, List.map_cons, membersFrom, List.append_assoc, fillSlots,
      readMember_writeMember]
    simp only [colon]
    rw [entryText, Slots.place_except distinct inside.1 apart.1 read]
    exact ih inside.2 apart.2 (by omega) false

/-- A plain record is read back whatever follows it, if its fields have names of their own and its
values are valid. -/
theorem readRecord_writeRecord {schema : Schema Scalar.Value} {values : Values schema.fields}
    (distinct : (schema.fields.map Field.name).Nodup) (valid : values.All Scalar.IsValid)
    (rest : List UInt8) :
    readRecord schema (writeRecord schema.fields values ++ rest) = .ok (values, rest) := by
  let entries := Values.entries schema.fields values
  let members := entries.map entryText
  have written : writeRecord schema.fields values ++ rest =
      0x7B :: (membersFrom true members ++ 0x7D :: rest) := by
    rw [writeRecord, memberTexts_eq]
    exact writeMap_append members rest
  have enough :
      entries.length + 1 ≤ (0x7B :: (membersFrom true members ++ 0x7D :: rest)).length := by
    have long := length_le_membersFrom true members
    simp only [members, List.length_map, List.length_append, List.length_cons] at long ⊢
    omega
  have filled := fillSlots_membersFrom distinct valid (fun _ inside => inside)
    (Values.map_name_entries schema.fields values ▸ distinct) enough true rest
  rw [Slots.except_entries] at filled
  rw [written, readRecord, skipBlank, if_neg (by decide)]
  simp only [↓reduceIte, members, entries, filled, Slots.finish_full]

/-- What is read back whatever follows it is read as a whole document. -/
theorem whole_of_read {α : Type} {read : List UInt8 → Read α} {bytes : List UInt8} {value : α}
    (reads : ∀ rest, read (bytes ++ rest) = .ok (value, rest)) : whole read bytes = .ok value := by
  have alone := reads []
  rw [List.append_nil] at alone
  rw [whole, alone]
  rfl

end RoundKey.Json
