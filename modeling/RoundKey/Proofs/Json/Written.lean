import RoundKey.Proofs.Json.Grammar
import RoundKey.Proofs.Json.Text

/-!
# Written documents in the grammar

What is written is in the grammar: every text spells itself between its quotes, numbers are whole
numbers, and a map of members is an object of these members.
-/
namespace RoundKey.Json

open RoundKey.Data

/-- The form of one byte spells that byte. -/
theorem Spells.escapeByte_append {text form : List UInt8} (later : Spells text form)
    (byte : UInt8) :
    Spells (byte :: text) (escapeByte byte ++ form) := by
  unfold escapeByte
  -- the seven short escapes
  iterate 7
    split
    · subst_vars
      exact .short (by decide) later
  split
  · next control =>
    have small : byte.toNat < 32 := UInt8.lt_iff_toNat_lt.mp control
    have low : isLowSurrogate byte.toNat = false := by simp [isLowSurrogate]; omega
    have high : isHighSurrogate byte.toNat = false := by simp [isHighSurrogate]; omega
    have same : codePoint byte.toNat = [byte] := by
      rw [codePoint, Text.utf8EncodeChar_of_lt (by omega), UInt8.ofNat_toNat]
    have spells := Spells.unit (unit?_control control) low high later
    rw [same] at spells
    exact spells
  · next noQuote noBackslash _ _ _ _ _ high =>
    exact .plain ⟨UInt8.not_lt.mp high, noQuote, noBackslash⟩ later

/-- The forms of bytes spell these bytes. -/
theorem spells_flatMap_escapeByte (bytes : List UInt8) :
    Spells bytes (bytes.flatMap escapeByte) := by
  induction bytes with
  | nil => exact .nil
  | cons byte bytes ih =>
    rw [List.flatMap_cons]
    exact ih.escapeByte_append byte

/-- Written bytes are a text. -/
theorem isValue_writeBytes (bytes : List UInt8) : IsValue (writeBytes bytes) :=
  .text (spells_flatMap_escapeByte bytes).isTextForm

/-- A written number of 32 bits is a number. -/
theorem isValue_writeWord (word : UInt32) : IsValue (writeWord word) := by
  let digits := (Nat.toDigits 10 word.toNat).map digitByte
  have decimal : ∀ byte ∈ digits, isDigit byte = true :=
    List.forall_mem_map.mpr fun digit inside =>
      (isDigit_digitByte (isDigit_of_mem_toDigits word.toNat digit inside)).1
  have nonempty : digits ≠ [] := by simp [digits]
  have isWhole : IsWhole digits :=
    ⟨⟨nonempty, decimal⟩, fun zero => by rw [List.length_map, length_toDigits_of_head zero]⟩
  have written : writeWord word = [] ++ (digits ++ ([] ++ [])) := by simp [digits]; rfl
  exact .number ⟨[], digits, [], [], written, .inl rfl, isWhole, .inl rfl, .inl rfl⟩

/-- A written value of a kind is a value. -/
theorem isValue_writeScalar (kind : Scalar) (value : kind.Value) :
    IsValue (writeScalar kind value) := by
  cases kind with
  | word => exact isValue_writeWord value
  | text | binary encoding content | code => exact isValue_writeBytes _

variable {members : List (String × List UInt8)}

/-- A written member is a member. -/
theorem isMember_writeMember {member : String × List UInt8} (value : IsValue member.2) :
    IsMember member (writeMember member) := by
  refine ⟨[], (Text.utf8 member.1).flatMap escapeByte, [], [], [], ?_,
    ⟨nofun, nofun, nofun, nofun⟩, spells_flatMap_escapeByte _, value⟩
  simp [writeMember, writeText, writeBytes]

/-- Written members are members. -/
theorem areMembers_writeMembers {member : String × List UInt8}
    (values : ∀ part ∈ member :: members, IsValue part.2) :
    AreMembers (member :: members) (writeMembers (member :: members)) := by
  induction members generalizing member with
  | nil => exact .last (isMember_writeMember (values member List.mem_cons_self))
  | cons next members ih =>
    rw [List.forall_mem_cons] at values
    exact .more (isMember_writeMember values.1) (ih values.2)

/-- A written map is an object of its members, in their order. -/
theorem isObject_writeMap (values : ∀ member ∈ members, IsValue member.2) :
    IsObject members (writeMap members) := by
  cases members with
  | nil => exact @IsObject.empty [] [] [] nofun nofun nofun
  | cons member members =>
    exact @IsObject.members _ [] _ [] nofun (areMembers_writeMembers values) nofun

/-- The members of a record are values. -/
theorem isValue_of_mem_memberTexts {fields : List (Field Scalar.Value)} {values : Values fields} :
    ∀ member ∈ memberTexts fields values, IsValue member.2 := by
  induction fields with
  | nil => exact nofun
  | cons field fields ih =>
    obtain ⟨value, values⟩ := values
    rw [memberTexts, List.forall_mem_cons]
    exact ⟨isValue_writeScalar field.kind value, ih⟩

end RoundKey.Json
