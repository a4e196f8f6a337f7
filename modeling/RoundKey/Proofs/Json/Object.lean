import RoundKey.Proofs.Data.Offer
import RoundKey.Proofs.Json.Value

/-!
# Records from objects

An object is read member by member, and what a record takes from it is what its members offer: as
a plain record the value of each member as the kind of its field, and as a signed record the value
that is found of it, after the signature. Both readers put one member after the other into slots, so
both come to the same walk over the members.
-/
namespace RoundKey.Json

open RoundKey.Data

variable {fields : List (Field Scalar.Value)} {members : List (String × List UInt8)}
  {member : String × List UInt8} {bytes form rest : List UInt8}

/-- What a member offers to a plain record. -/
def plainOffer (member : String × List UInt8) : Offer Scalar.Value where
  name := member.1
  value? kind := taken (readScalar kind) member.2
  passes := true

/-- What a member offers to a signed record: the signature is read as such, and of every other
member the value that is found of it is taken. -/
def signedOffer (member : String × List UInt8) : Offer Scalar.Value where
  name := member.1
  value? kind :=
    if member.1 = signatureName then taken (readScalar kind) member.2
    else (taken (readFound depthLimit) member.2).bind fun found =>
      (Scalar.ofFound kind found).toOption
  passes := (taken (readFound depthLimit) member.2).isSome

/-- A member that holds a text, in whatever form the text is written. -/
def HoldsText (member : String × List UInt8) (text : String) : Prop :=
  ∃ form, Spells (Text.utf8 text) form ∧ member.2 = 0x22 :: (form ++ [0x22])

/-- The field of a signed record that holds its signature. -/
abbrev signatureField : Field Scalar.Value :=
  { name := signatureName, kind := .binary .base64 .signature }

/-- Blanks in front of a comma, a name or a bracket are skipped. -/
theorem readMember_append {blanks : List UInt8} (areBlanks : IsBlanks blanks) (first : Bool)
    (bytes : List UInt8) : readMember first (blanks ++ bytes) = readMember first bytes := by
  simp only [readMember, areBlanks.skipBlank_append]

/-- A text is read from every form that spells it. -/
theorem Spells.readText_append {text : String} (spells : Spells (Text.utf8 text) form)
    (rest : List UInt8) : readText (form ++ 0x22 :: rest) = .ok (text, rest) := by
  simp only [readText, spells.readBytes_append rest, Text.ofUtf8?_utf8]

/-- The text that a member holds is taken from it. -/
theorem HoldsText.taken_readString {text : String} (holds : HoldsText member text)
    (wanted : Wanted) : taken (readString wanted) member.2 = some text := by
  obtain ⟨form, spells, written⟩ := holds
  have read : readString wanted (0x22 :: (form ++ [0x22])) = .ok (text, []) :=
    spells.readText_append []
  rw [written, taken, read]
  rfl

/-- The binary value whose text a member holds is taken from it. -/
theorem HoldsText.taken_binary {text : String} (holds : HoldsText member text)
    {encoding : Encoding} {content : Content} {value : content.Value}
    (decoded : content.decode encoding (Text.utf8 text) = .ok value) :
    taken (readScalar (.binary encoding content)) member.2 = some value := by
  obtain ⟨found, read, same⟩ := Option.map_eq_some_iff.mp (holds.taken_readString .text)
  cases outcome : readString .text member.2 with
  | error fault => simp [outcome, Except.toOption] at read
  | ok found' =>
    obtain rfl : found' = found := by simpa [outcome, Except.toOption] using read
    rw [← same] at decoded
    simp [taken, readScalar, outcome, decoded, Except.toOption]

/-- The failure class whose name a member holds is taken from it. -/
theorem HoldsText.taken_readCode {name : String} (holds : HoldsText member name) :
    taken readCode member.2 = some (ErrorCode.ofName name) := by
  obtain ⟨form, spells, written⟩ := holds
  have read : readCode (0x22 :: (form ++ [0x22])) = .ok (ErrorCode.ofName name, []) := by
    rw [readCode, skipBlank_cons_of_false rfl]
    simp only [↓reduceIte, spells.readText_append []]
    rfl
  rw [written, taken, read]
  rfl

/-- A member is read up to its colon, its name in whatever form, and its value follows. -/
theorem IsMember.exists_readMember (isMember : IsMember member form) (first : Bool)
    (rest : List UInt8) :
    ∃ later lead after, IsBlanks lead ∧ IsBlanks after ∧ IsValue member.2 ∧
      readMember first (comma first ++ (form ++ rest)) = .ok (.named member.1 later) ∧
      readColon later = .ok (lead ++ (member.2 ++ (after ++ rest))) := by
  obtain ⟨before, name, gap, lead, after, rfl, ⟨front, middle, leading, back⟩, spells, value⟩ :=
    isMember
  let value' := lead ++ (member.2 ++ (after ++ rest))
  have joined :
      before ++ 0x22 :: (name ++ 0x22 :: (gap ++ 0x3A :: (lead ++ (member.2 ++ after)))) ++ rest =
        before ++ 0x22 :: (name ++ 0x22 :: (gap ++ 0x3A :: value')) := by simp [value']
  have skipped : skipBlank (before ++ 0x22 :: (name ++ 0x22 :: (gap ++ 0x3A :: value'))) =
      0x22 :: (name ++ 0x22 :: (gap ++ 0x3A :: value')) := front.skipBlank_append _
  refine ⟨gap ++ 0x3A :: value', lead, after, leading, back, value, ?_, readColon_append middle _⟩
  rw [joined]
  have named := spells.readText_append (gap ++ 0x3A :: value')
  cases first with
  | true =>
    show readMember true (before ++ _) = _
    rw [readMember_append front]
    simp [readMember, skipBlank, isBlank, named, Except.map]
  | false =>
    show readMember false (0x2C :: (before ++ _)) = _
    have start : skipBlank (0x2C :: (before ++ 0x22 :: (name ++ 0x22 :: (gap ++ 0x3A :: value')))) =
      0x2C :: (before ++ 0x22 :: (name ++ 0x22 :: (gap ++ 0x3A :: value'))) := rfl
    simp [readMember, start, skipped, named, Except.map]

/-- A walk over the members of an object that puts what each offers into slots. -/
structure Fills (run : Nat → Bool → Slots fields → List UInt8 → Option (Slots fields × List UInt8))
    (offer : String × List UInt8 → Offer Scalar.Value) : Prop where
  /-- Blanks in front of a comma, a name or a bracket make no difference. -/
  skips {blanks : List UInt8} (areBlanks : IsBlanks blanks) (fuel : Nat) (first : Bool)
    (slots : Slots fields) (bytes : List UInt8) :
    run fuel first slots (blanks ++ bytes) = run fuel first slots bytes
  /-- The walk ends at the closing bracket. -/
  closes (fuel : Nat) (first : Bool) (slots : Slots fields) (rest : List UInt8) :
    run (fuel + 1) first slots (0x7D :: rest) = some (slots, rest)
  /-- A member is put, and the walk goes on after it. -/
  puts {member : String × List UInt8} {form rest : List UInt8} (isMember : IsMember member form)
    (ends : EndsNumber rest) (fuel : Nat) (first : Bool) (slots : Slots fields) :
    run (fuel + 1) first slots (comma first ++ (form ++ rest)) =
      (Slots.put (offer member) fields slots).bind fun slots => run fuel false slots rest

section Walk

variable {run : Nat → Bool → Slots fields → List UInt8 → Option (Slots fields × List UInt8)}
  {offer : String × List UInt8 → Offer Scalar.Value}

/-- A walk over all members up to the closing bracket fills the slots with what they offer, if there
is fuel for each member and the bracket. -/
theorem AreMembers.run_eq (areMembers : AreMembers members form) (fills : Fills run offer)
    {fuel : Nat} (enough : members.length + 1 ≤ fuel) (first : Bool) (slots : Slots fields)
    (rest : List UInt8) :
    run fuel first slots (comma first ++ (form ++ 0x7D :: rest)) =
      (Slots.fill fields slots (members.map offer)).map fun slots => (slots, rest) := by
  induction areMembers generalizing fuel first slots with
  | last isMember =>
    obtain ⟨fuel, rfl⟩ : ∃ less, fuel = less + 2 := ⟨fuel - 2, by simp at enough; omega⟩
    rw [fills.puts isMember (endsNumber_cons (by decide) rest) (fuel + 1)]
    simp only [fills.closes, Slots.fill, List.map_cons, List.map_nil, List.foldlM_cons,
      List.foldlM_nil]
    cases Slots.put (offer _) fields slots <;> rfl
  | @more member members form later isMember areMembers ih =>
    rw [List.length_cons] at enough
    obtain ⟨fuel, rfl⟩ : ∃ less, fuel = less + 1 := ⟨fuel - 1, by omega⟩
    have joined : form ++ 0x2C :: later ++ 0x7D :: rest =
        form ++ 0x2C :: (later ++ 0x7D :: rest) := by simp
    rw [joined, fills.puts isMember (endsNumber_cons (by decide) _), List.map_cons, Slots.fill,
      List.foldlM_cons]
    cases placed : Slots.put (offer member) fields slots with
    | none => rfl
    | some slots => exact ih (by omega) false slots

/-- Members have a byte each. -/
theorem AreMembers.length_le (areMembers : AreMembers members form) :
    members.length ≤ form.length := by
  have positive {member : String × List UInt8} {form : List UInt8}
      (isMember : IsMember member form) : 0 < form.length := by
    obtain ⟨before, name, gap, lead, after, rfl, -⟩ := isMember
    simp only [List.length_append, List.length_cons]
    omega
  induction areMembers with
  | last isMember => exact positive isMember
  | more isMember areMembers ih =>
    simp only [List.length_cons, List.length_append]
    omega

/-- A walk over an object fills the slots with what its members offer. -/
theorem IsObject.exists_run (isObject : IsObject members bytes) (fills : Fills run offer) :
    ∃ before later after, bytes = before ++ 0x7B :: later ∧ IsBlanks before ∧ IsBlanks after ∧
      ∀ slots : Slots fields, run bytes.length true slots later =
        (Slots.fill fields slots (members.map offer)).map fun slots => (slots, after) := by
  cases isObject with
  | @empty before inside after front middle back =>
    refine ⟨before, inside ++ 0x7D :: after, after, rfl, front, back, fun slots => ?_⟩
    obtain ⟨fuel, enough⟩ :
        ∃ fuel, (before ++ 0x7B :: (inside ++ 0x7D :: after)).length = fuel + 1 :=
      ⟨before.length + (inside ++ 0x7D :: after).length, by simp; omega⟩
    rw [fills.skips middle, enough, fills.closes]
    rfl
  | @members _ before inside after front areMembers back =>
    refine ⟨before, inside ++ 0x7D :: after, after, rfl, front, back, fun slots => ?_⟩
    have long := areMembers.length_le
    apply areMembers.run_eq fills _ true slots after
    simp only [List.length_append, List.length_cons]
    omega

end Walk

/-- Blanks in front of a comma, a name or a bracket make no difference to a plain record. -/
theorem fillSlots_append {blanks : List UInt8} (areBlanks : IsBlanks blanks) (fuel : Nat)
    (first : Bool) (slots : Slots fields) (bytes : List UInt8) :
    fillSlots fields fuel first slots (blanks ++ bytes) =
      fillSlots fields fuel first slots bytes := by
  cases fuel <;> simp only [fillSlots, readMember_append areBlanks]

/-- A plain record is filled by a walk over its members. -/
theorem fills_fillSlots (fields : List (Field Scalar.Value)) :
    Fills (fun fuel first slots bytes => (fillSlots fields fuel first slots bytes).toOption)
      plainOffer where
  skips areBlanks fuel first slots bytes := by rw [fillSlots_append areBlanks]
  closes fuel first slots rest := by
    simp only [fillSlots, readMember_close]
    rfl
  puts {member form rest} isMember ends fuel first slots := by
    obtain ⟨later, lead, after, leading, back, value, named, colon⟩ :=
      isMember.exists_readMember first rest
    have ends' : EndsNumber (after ++ rest) := back.endsNumber_append ends
    have reads (kind : Scalar) :
        (readScalar kind (lead ++ (member.2 ++ (after ++ rest)))).toOption =
          ((plainOffer member).value? kind).map fun value => (value, after ++ rest) := by
      rw [readScalar_append kind leading]
      exact (settles_readScalar kind value).toOption_eq ends'
    have placed : (Slots.place (fun name => Fault.mismatch (.duplicate name))
          (fun kind => readScalar kind (lead ++ (member.2 ++ (after ++ rest))))
          (.ok (after ++ rest)) member.1 fields slots).toOption =
        (Slots.put (plainOffer member) fields slots).map fun slots => (slots, after ++ rest) :=
      Slots.toOption_place (plainOffer member) reads rfl fields slots
    simp only [fillSlots, named, colon, skimValue_append value leading ends']
    cases outcome : Slots.place (fun name => Fault.mismatch (.duplicate name))
        (fun kind => readScalar kind (lead ++ (member.2 ++ (after ++ rest)))) (.ok (after ++ rest))
        member.1 fields slots with
    | error fault =>
      rw [outcome] at placed
      cases put : Slots.put (plainOffer member) fields slots with
      | none => rfl
      | some slots => simp [put, Except.toOption] at placed
    | ok placed' =>
      rw [outcome] at placed
      obtain ⟨slots', put, rfl⟩ := Option.map_eq_some_iff.mp placed.symm
      simp only [put, Option.bind_some, fillSlots_append back]

/-- What is taken before blanks is read as a document. -/
theorem whole_eq_ok_iff_of_blanks {α : Type} {read : List UInt8 → Read α} {value value' : α}
    {after : List UInt8} (back : IsBlanks after) (taken : read bytes = .ok (value', after)) :
    whole read bytes = .ok value ↔ value' = value := by
  simp [whole, taken, back.skipBlank_eq_nil]

/-- A plain record is read from an object exactly if the members offer its values. -/
theorem readRecord_eq_ok_iff {schema : Schema Scalar.Value}
    (distinct : (schema.fields.map Field.name).Nodup) (isObject : IsObject members bytes)
    {values : Values schema.fields} : whole (readRecord schema) bytes = .ok values ↔
      Values.Offered (members.map plainOffer) schema.fields values := by
  obtain ⟨before, later, after, written, front, back, run⟩ :=
    isObject.exists_run (fills_fillSlots schema.fields)
  have filled := run (Slots.empty schema.fields)
  have start : skipBlank bytes = 0x7B :: later := by rw [written, front.skipBlank_append]; rfl
  have pass : OthersPass (members.map plainOffer) schema.fields := by
    intro offer inside _
    obtain ⟨member, -, rfl⟩ := List.mem_map.mp inside
    rfl
  have filling : (∃ slots, Slots.fill schema.fields (Slots.empty _) (members.map plainOffer) =
      some slots ∧ Slots.finish _ slots = .ok values) ↔ _ := Slots.exists_fill_iff distinct
  rw [and_iff_left pass] at filling
  rw [← filling]
  cases outcome : fillSlots schema.fields bytes.length true (Slots.empty schema.fields) later with
  | error fault =>
    rw [outcome] at filled
    have none := Option.map_eq_none_iff.mp filled.symm
    simp [whole, readRecord, start, outcome, none]
  | ok found =>
    rw [outcome] at filled
    obtain ⟨slots, some, rfl⟩ := Option.map_eq_some_iff.mp filled.symm
    cases finished : Slots.finish schema.fields slots with
    | error mismatch => simp [whole, readRecord, start, outcome, some, finished, reject]
    | ok values' =>
      have read : readRecord schema bytes = .ok (values', after) := by
        simp [readRecord, start, outcome, finished]
      rw [whole_eq_ok_iff_of_blanks back read]
      simp [some, finished]

/-- The slots of a signed record filled from the members of a map. -/
def fillSigned (fields : List (Field Scalar.Value)) (fuel : Nat) (first : Bool) :
    Slots (signatureField :: fields) → List UInt8 →
      Option (Slots (signatureField :: fields) × List UInt8)
  | (signature, slots), bytes =>
    (readMembers fuel first signature bytes).toOption.bind fun read =>
      (placeMembers fields slots read.1.2).toOption.map fun slots => ((read.1.1, slots), read.2)

/-- Blanks in front of a comma, a name or a bracket make no difference to a signed record. -/
theorem readMembers_append {blanks : List UInt8} (areBlanks : IsBlanks blanks) (fuel : Nat)
    (first : Bool) (signature : Option Ed25519.Signature) (bytes : List UInt8) :
    readMembers fuel first signature (blanks ++ bytes) =
      readMembers fuel first signature bytes := by
  cases fuel <;> simp only [readMembers, readMember_append areBlanks]

/-- A value is found or refused wherever it stands. -/
theorem toOption_readFound {lead : List UInt8} (leading : IsBlanks lead) (value : IsValue form)
    (ends : EndsNumber rest) : (readFound depthLimit (lead ++ (form ++ rest))).toOption =
      (taken (readFound depthLimit) form).map fun found => (found, rest) := by
  rw [toOption_readFound_append depthLimit value leading ends]
  exact (settles_readFound depthLimit value).toOption_eq ends

/-- The signature is read if there is none yet, and the members after it. -/
theorem toOption_readMembers_signature (isMember : IsMember member form)
    (named : member.1 = signatureName) (ends : EndsNumber rest) (fuel : Nat) (first : Bool)
    (signature : Option Ed25519.Signature) :
    (readMembers (fuel + 1) first signature (comma first ++ (form ++ rest))).toOption =
      match signature with
      | some _ => none
      | none => (taken (readScalar signatureKind) member.2).bind fun signature =>
        (readMembers fuel false (some signature) rest).toOption := by
  obtain ⟨later, lead, after, leading, back, value, start, colon⟩ :=
    isMember.exists_readMember first rest
  have ends' : EndsNumber (after ++ rest) := back.endsNumber_append ends
  have settles := settles_readScalar signatureKind value
  rw [readMembers.eq_def]
  simp only [start, if_pos named]
  cases signature with
  | some signature => rfl
  | none =>
    simp only [colon, readScalar_append signatureKind leading]
    cases takes : taken (readScalar signatureKind) member.2 with
    | none =>
      obtain ⟨fault, refused⟩ := settles.error_of_taken takes ends'
      simp only [refused]
      rfl
    | some signature =>
      simp only [settles.read_of_taken takes ends', readMembers_append back]
      rfl

/-- A member that is no signature is found, and the members after it. -/
theorem toOption_readMembers_other (isMember : IsMember member form)
    (other : member.1 ≠ signatureName) (ends : EndsNumber rest) (fuel : Nat) (first : Bool)
    (signature : Option Ed25519.Signature) :
    (readMembers (fuel + 1) first signature (comma first ++ (form ++ rest))).toOption =
      (taken (readFound depthLimit) member.2).bind fun found =>
        (readMembers fuel false signature rest).toOption.map fun read =>
          ((read.1.1, (member.1, found) :: read.1.2), read.2) := by
  obtain ⟨later, lead, after, leading, back, value, start, colon⟩ :=
    isMember.exists_readMember first rest
  have found := toOption_readFound leading value (back.endsNumber_append ends)
  rw [readMembers.eq_def]
  simp only [start, if_neg other, colon]
  cases outcome : readFound depthLimit (lead ++ (member.2 ++ (after ++ rest))) with
  | error fault =>
    rw [outcome] at found
    rw [Option.map_eq_none_iff.mp found.symm]
    rfl
  | ok read =>
    rw [outcome] at found
    obtain ⟨value, takes, rfl⟩ := Option.map_eq_some_iff.mp found.symm
    simp only [takes, Option.bind_some, readMembers_append back]
    cases readMembers fuel false signature rest <;> rfl

/-- A member that has been found is placed as what it offers is put. -/
theorem toOption_placeMembers_cons (other : member.1 ≠ signatureName) {found : Found}
    (takes : taken (readFound depthLimit) member.2 = some found) (slots : Slots fields)
    (members : List (String × Found)) :
    (placeMembers fields slots ((member.1, found) :: members)).toOption =
      (Slots.put (signedOffer member) fields slots).bind fun slots =>
        (placeMembers fields slots members).toOption := by
  have reads (kind : Scalar) :
      ((Scalar.ofFound kind found).map fun value => (value, ())).toOption =
        ((signedOffer member).value? kind).map fun value => (value, ()) := by
    simp only [toOption_map, signedOffer, if_neg other, takes, Option.bind_some]
  have passes : (signedOffer member).passes = true := by simp [signedOffer, takes]
  have placed : (Slots.place Mismatch.duplicate
        (fun kind => (Scalar.ofFound kind found).map fun value => (value, ())) (.ok ()) member.1
        fields slots).toOption =
      (Slots.put (signedOffer member) fields slots).map fun slots => (slots, ()) :=
    Slots.toOption_place (signedOffer member) reads (by rw [if_pos passes]; rfl) fields slots
  rw [placeMembers]
  cases outcome : Slots.place Mismatch.duplicate
      (fun kind => (Scalar.ofFound kind found).map fun value => (value, ())) (.ok ()) member.1
      fields slots with
  | error mismatch =>
    rw [outcome] at placed
    rw [Option.map_eq_none_iff.mp placed.symm]
    rfl
  | ok placed' =>
    rw [outcome] at placed
    obtain ⟨slots', put, rfl⟩ := Option.map_eq_some_iff.mp placed.symm
    simp only [put, Option.bind_some]

/-- A signed record is filled by a walk over its members. -/
theorem fills_fillSigned (fields : List (Field Scalar.Value)) :
    Fills (fillSigned fields) signedOffer where
  skips areBlanks fuel first slots bytes := by
    simp only [fillSigned, readMembers_append areBlanks]
  closes fuel first slots rest := by
    rw [fillSigned, readMembers.eq_def]
    simp only [readMember_close]
    rfl
  puts {member form rest} isMember ends fuel first slots := by
    obtain ⟨signature, slots⟩ := slots
    rw [fillSigned]
    by_cases named : member.1 = signatureName
    · have here : signatureField.name = (signedOffer member).name := named.symm
      have read : (signedOffer member).value? signatureField.kind =
          taken (readScalar signatureKind) member.2 := if_pos named
      rw [toOption_readMembers_signature isMember named ends, Slots.put_of_eq here, read]
      cases signature with
      | some signature => rfl
      | none =>
        cases takes : taken (readScalar signatureKind) member.2 <;> rfl
    · have elsewhere : signatureField.name ≠ (signedOffer member).name := Ne.symm named
      rw [toOption_readMembers_other isMember named ends, Slots.put_of_ne elsewhere]
      cases takes : taken (readFound depthLimit) member.2 with
      | none =>
        have noValue (kind : Scalar) : (signedOffer member).value? kind = none := by
          simp only [signedOffer, if_neg named, takes, Option.bind_none]
        have noPass : (signedOffer member).passes = false := by simp [signedOffer, takes]
        rw [Slots.put_eq_none noValue noPass]
        rfl
      | some found =>
        simp only [Option.bind_some, Option.bind_map, Function.comp_def,
          toOption_placeMembers_cons named takes, fillSigned]
        cases Slots.put (signedOffer member) fields slots with
        | none => simp
        | some slots => simp

/-- A signed record is read from an object exactly if the members offer its signature and its
values, and all other members can be read in full. -/
theorem readSigned_eq_ok_iff
    (distinct : (signatureName :: fields.map Field.name).Nodup) (isObject : IsObject members bytes)
    {values : Values fields} {signature : Ed25519.Signature} :
    whole (readSigned fields) bytes = .ok (values, signature) ↔
      Values.Offered (members.map signedOffer) (signatureField :: fields) (signature, values) ∧
        OthersPass (members.map signedOffer) (signatureField :: fields) := by
  obtain ⟨before, later, after, written, front, back, run⟩ :=
    isObject.exists_run (fills_fillSigned fields)
  have filled := run (Slots.empty (signatureField :: fields))
  have start : skipBlank bytes = 0x7B :: later := by rw [written, front.skipBlank_append]; rfl
  have finishes (slot : Option Ed25519.Signature) (slots : Slots fields) :
      Slots.finish (signatureField :: fields) (slot, slots) = .ok (signature, values) ↔
        slot = some signature ∧ Slots.finish fields slots = .ok values :=
    Slots.finish_cons_eq_ok_iff.trans (by cases slot <;> rfl)
  have apart : ((signatureField :: fields).map Field.name).Nodup := distinct
  have filling :
      (∃ slots,
        Slots.fill (signatureField :: fields) (Slots.empty _) (members.map signedOffer) =
            some slots ∧
          Slots.finish _ slots = .ok (signature, values)) ↔ _ :=
    Slots.exists_fill_iff apart
  rw [← filling, Slots.empty]
  rw [Slots.empty, fillSigned] at filled
  cases outcome : readMembers bytes.length true none later with
  | error fault =>
    rw [outcome] at filled
    have none := Option.map_eq_none_iff.mp filled.symm
    simp [whole, readSigned, start, outcome, none]
  | ok found =>
    obtain ⟨⟨signature', found⟩, rest⟩ := found
    rw [outcome] at filled
    cases placed : placeMembers fields (Slots.empty fields) found with
    | error mismatch =>
      simp only [Except.toOption, Option.bind_some, placed] at filled
      have none := Option.map_eq_none_iff.mp filled.symm
      cases signature' <;>
        simp [whole, readSigned, start, outcome, ofMembers, reject, placed, none]
    | ok slots =>
      simp only [Except.toOption, Option.bind_some, placed] at filled
      obtain ⟨slots', some, same⟩ := Option.map_eq_some_iff.mp filled.symm
      cases same
      cases signature' with
      | none =>
        simp [whole, readSigned, start, outcome, ofMembers, reject, some, finishes]
      | some signature' =>
        cases finished : Slots.finish fields slots with
        | error mismatch =>
          simp [whole, readSigned, start, outcome, ofMembers, reject, placed, some,
            finishes, finished]
        | ok values' =>
          have read : readSigned fields bytes = .ok ((values', signature'), after) := by
            simp [readSigned, start, outcome, ofMembers, placed, finished]
          rw [whole_eq_ok_iff_of_blanks back read]
          simp [some, finishes, finished, and_comm]

end RoundKey.Json
