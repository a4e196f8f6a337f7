import RoundKey.Proofs.Data.Offer
import RoundKey.Proofs.Data.Scalar
import RoundKey.Proofs.Toml.Document

/-!
# Reading back records in TOML

A value that is written as a text stands for one node, which is read as that value. The pairs of a
record become the members of a table in the same order, and each member fills the slot of its own
field. Whatever else is read from a document, its values are valid.
-/
namespace RoundKey.Toml

open RoundKey.Data

/-- The node of a written value. -/
def nodeOf : (kind : Scalar) → kind.Value → Node
  | .text, value => .text value
  | .word, value => .integer value.toNat
  | .binary encoding content, value => .text (Text.ofAscii (content.encode encoding value))
  | .code, value => .text value.name

/-- What is found at the node of a value is what the value is shown as. -/
theorem found_nodeOf (kind : Scalar) (value : kind.Value) :
    (nodeOf kind value).found = kind.shown value := by
  cases kind <;> rfl

/-- A valid value is read from its node. -/
theorem readScalar_nodeOf {kind : Scalar} {value : kind.Value} (valid : kind.IsValid value) :
    readScalar kind (nodeOf kind value) = .ok value := by
  rw [readScalar, found_nodeOf]
  exact Scalar.ofFound_shown valid

/-- Every value but a number is written as a text, which is its node. -/
theorem exists_writeScalar_eq {kind : Scalar} (noWord : kind ≠ .word) (value : kind.Value) :
    ∃ text, writeScalar kind value = writeText text ∧
      nodeOf kind value = .text (String.ofList text) := by
  cases kind with
  | word => exact absurd rfl noWord
  | text => exact ⟨_, rfl, by rw [nodeOf, String.ofList_toList]⟩
  | binary encoding content => exact ⟨_, rfl, rfl⟩
  | code => exact ⟨_, rfl, by rw [nodeOf, String.ofList_toList]⟩

/-- The pair of a bare name and a value that is no number is a line. -/
theorem readLine_writeScalar {name : String} (bare : IsBareName name) {kind : Scalar}
    (noWord : kind ≠ .word) (value : kind.Value) (rest : List Char) :
    readLine (writePair name (writeScalar kind value) ++ rest) =
      some (.pair (memberPair (name, nodeOf kind value)), rest) := by
  obtain ⟨text, form, node⟩ := exists_writeScalar_eq noWord value
  rw [form, node]
  exact readLine_writePair bare text rest

/-- A pair is not empty. -/
theorem writePair_ne_nil (name : String) (form : List Char) : writePair name form ≠ [] := by
  simp [writePair]

/-- The members that the pairs of a record become. -/
def membersOf (fields : List (Field Scalar.Value)) (values : Values fields) : Members :=
  (Values.entries fields values).map fun entry => (entry.name, nodeOf entry.kind entry.value)

/-- The members of a record have the names of its fields. -/
theorem map_fst_membersOf (fields : List (Field Scalar.Value)) (values : Values fields) :
    (membersOf fields values).map Prod.fst = fields.map Field.name := by
  rw [← Values.map_name_entries fields values, membersOf, List.map_map]
  rfl

/-- The pairs of a record are read in front of the lines after them, if its fields have bare names
and none is a number. -/
theorem reads_writePairs {fields : List (Field Scalar.Value)}
    (bare : ∀ field ∈ fields, IsBareName field.name)
    (noWord : ∀ field ∈ fields, field.kind ≠ .word) (values : Values fields) {rest : List Char}
    {lines : List Line} (later : Reads rest lines) :
    Reads (writePairs fields values ++ rest)
      (pairLines (membersOf fields values) ++ lines) := by
  induction fields with
  | nil => exact later
  | cons field fields ih =>
    obtain ⟨value, values⟩ := values
    rw [List.forall_mem_cons] at bare noWord
    rw [writePairs, List.append_assoc]
    exact .cons (writePair_ne_nil _ _) (readLine_writeScalar bare.1 noWord.1 value _)
      (ih bare.2 noWord.2 values)

section

variable {Kind : Type} {Value : Kind → Type}
  {read : (kind : Kind) → Node → Except Mismatch (Value kind)}

/-- Members that are read as entries fill the slots that are left, if no two fields share a
name. -/
theorem fillSlots_map {fields : List (Field Value)} {values : Values fields}
    (distinct : (fields.map Field.name).Nodup) {node : Entry Value → Node}
    {entries : List (Entry Value)}
    (inside : ∀ entry ∈ entries, entry ∈ Values.entries fields values)
    (apart : (entries.map Entry.name).Nodup)
    (found : ∀ entry ∈ entries, read entry.kind (node entry) = .ok entry.value) :
    fillSlots read fields (Slots.except (entries.map Entry.name) fields values)
        (entries.map fun entry => (entry.name, node entry)) =
      .ok (Slots.full fields values) := by
  induction entries with
  | nil => rw [List.map_nil, List.map_nil, Slots.except_nil, fillSlots]
  | cons entry entries ih =>
    rw [List.forall_mem_cons] at inside found
    rw [List.map_cons, List.nodup_cons] at apart
    rw [List.map_cons, List.map_cons, fillSlots]
    rw [Slots.place_except distinct inside.1 apart.1 (by rw [found.1]; rfl)]
    exact ih inside.2 apart.2 found.2

/-- A record is read from a table whose members are read as its entries, if no two fields share a
name. -/
theorem ofMembers_map {fields : List (Field Value)} {values : Values fields}
    (distinct : (fields.map Field.name).Nodup) {node : Entry Value → Node}
    (found : ∀ entry ∈ Values.entries fields values,
      read entry.kind (node entry) = .ok entry.value) :
    ofMembers read fields
        ((Values.entries fields values).map fun entry => (entry.name, node entry)) =
      .ok values := by
  have filled := fillSlots_map distinct (fun _ inside => inside)
    (Values.map_name_entries fields values ▸ distinct) found
  rw [Slots.except_entries] at filled
  simp only [ofMembers, filled, Slots.finish_full]

end

/-- A record of valid values is read from its members. -/
theorem ofMembers_membersOf {fields : List (Field Scalar.Value)} {values : Values fields}
    (distinct : (fields.map Field.name).Nodup) (valid : values.All Scalar.IsValid) :
    ofMembers readScalar fields (membersOf fields values) = .ok values :=
  ofMembers_map distinct fun entry inside =>
    readScalar_nodeOf (Values.all_iff.mp valid entry inside)

/-- A pair of a bare name does not begin with a mark. -/
theorem head?_writePair {name : String} (bare : IsBareName name) (form rest : List Char) :
    (writePair name form ++ rest).head? ≠ some '\ufeff' := by
  obtain ⟨first, later, same, shown⟩ := bare.exists_cons
  obtain ⟨-, -, -, -, -, -, -, noMark⟩ := special_of_isBare shown
  simp [writePair, same, noMark]

/-- The document of a record is the table of its members, if its fields have bare names of their
own and none is a number. -/
theorem readDocument_writeRecord {fields : List (Field Scalar.Value)}
    (bare : ∀ field ∈ fields, IsBareName field.name)
    (noWord : ∀ field ∈ fields, field.kind ≠ .word)
    (distinct : (fields.map Field.name).Nodup) (values : Values fields) :
    readDocument (writeRecord fields values) = some (membersOf fields values) := by
  have reads : Reads (writePairs fields values)
      (pairLines (membersOf fields values) ++ [].flatMap sectionLines) := by
    have reads := reads_writePairs bare noWord values .nil
    rwa [List.append_nil] at reads
  have noMark : (writePairs fields values).head? ≠ some '\ufeff' := by
    cases fields with
    | nil => simp [writePairs]
    | cons field fields => exact head?_writePair (bare field List.mem_cons_self) _ _
  have own : ((membersOf fields values).map Prod.fst ++ []).Nodup := by
    rwa [List.append_nil, map_fst_membersOf]
  rw [writeRecord, readDocument_of_reads noMark reads own (by simp), List.map_nil, List.append_nil]

section

variable {Kind : Type} {Value : Kind → Type}
  (read : (kind : Kind) → Node → Except Mismatch (Value kind))

/-- What a member of a table offers to a record. -/
def memberOffer (member : String × Node) : Offer Value where
  name := member.1
  value? kind := (read kind member.2).toOption
  passes := true

/-- The slots of a record are filled with what the members of a table offer. -/
theorem toOption_fillSlots {fields : List (Field Value)} (slots : Slots fields)
    (members : Members) : (fillSlots read fields slots members).toOption =
      Slots.fill fields slots (members.map (memberOffer read)) := by
  induction members generalizing slots with
  | nil => rfl
  | cons member members ih =>
    obtain ⟨name, node⟩ := member
    let offer := memberOffer read (name, node)
    have reads (kind : Kind) : ((read kind node).map fun value => (value, ())).toOption =
        (offer.value? kind).map fun value => (value, ()) := by
      cases found : read kind node <;> simp [offer, memberOffer, found, Except.map, Except.toOption]
    have placed : (Slots.place .duplicate
          (fun kind => (read kind node).map fun value => (value, ())) (.ok ()) name fields
          slots).toOption =
        (Slots.put offer fields slots).map fun slots => (slots, ()) :=
      Slots.toOption_place offer reads rfl fields slots
    rw [fillSlots, List.map_cons, Slots.fill, List.foldlM_cons]
    cases outcome : Slots.place .duplicate
        (fun kind => (read kind node).map fun value => (value, ())) (.ok ()) name fields slots with
    | error mismatch =>
      rw [outcome] at placed
      rw [Option.map_eq_none_iff.mp placed.symm]
      rfl
    | ok placed' =>
      rw [outcome] at placed
      obtain ⟨slots', put, rfl⟩ := Option.map_eq_some_iff.mp placed.symm
      rw [put]
      exact ih slots'

/-- A record is read from a table exactly if the members offer its values. -/
theorem ofMembers_eq_ok_iff {fields : List (Field Value)}
    (distinct : (fields.map Field.name).Nodup) {members : Members} {values : Values fields} :
    ofMembers read fields members = .ok values ↔
      Values.Offered (members.map (memberOffer read)) fields values := by
  have filled := toOption_fillSlots read (Slots.empty fields) members
  have pass : OthersPass (members.map (memberOffer read)) fields := by
    intro offer inside _
    obtain ⟨member, -, rfl⟩ := List.mem_map.mp inside
    rfl
  have filling : (∃ slots, Slots.fill fields (Slots.empty _) (members.map (memberOffer read)) =
      some slots ∧ Slots.finish _ slots = .ok values) ↔ _ := Slots.exists_fill_iff distinct
  rw [and_iff_left pass] at filling
  rw [← filling, ← filled, ofMembers]
  cases fillSlots read fields (Slots.empty fields) members <;> simp [Except.toOption]

end

/-- Only valid values are read. -/
theorem isValid_of_readScalar {kind : Scalar} {node : Node} {value : kind.Value}
    (read : readScalar kind node = .ok value) : kind.IsValid value :=
  Scalar.isValid_of_ofFound read

section

variable {Kind : Type} {Value : Kind → Type}
  {read : (kind : Kind) → Node → Except Mismatch (Value kind)}
  {holds : (kind : Kind) → Value kind → Prop}
  (reads : ∀ kind node value, read kind node = .ok value → holds kind value)
include reads

/-- What holds of all that is read holds of the slots that members fill. -/
theorem all_fillSlots {fields : List (Field Value)} {members : Members}
    {slots next : Slots fields} (all : Slots.All holds fields slots)
    (filled : fillSlots read fields slots members = .ok next) : Slots.All holds fields next := by
  induction members generalizing slots with
  | nil =>
    cases filled
    exact all
  | cons member members ih =>
    unfold fillSlots at filled
    simp only at filled
    split at filled
    · contradiction
    · next placed =>
      refine ih (all.place ?_ placed) filled
      intro kind value rest found
      cases outcome : read kind member.2 with
      | error mismatch => simp [outcome, Except.map] at found
      | ok value =>
        simp only [outcome, Except.map, Except.ok.injEq, Prod.mk.injEq] at found
        rw [← found.1]
        exact reads kind member.2 value outcome

/-- What holds of all that is read, and of the defaults, holds of the values of a table. -/
theorem all_ofMembers {fields : List (Field Value)} (defaults : DefaultsHold holds fields)
    {members : Members} {values : Values fields}
    (found : ofMembers read fields members = .ok values) : Values.All holds fields values := by
  unfold ofMembers at found
  split at found
  · contradiction
  · next filled =>
    have all := all_fillSlots reads (Slots.all_empty fields) filled
    exact all.finish defaults found

/-- What holds of all that is read, and of the defaults, holds of the values of a list. -/
theorem all_ofItems {record : String} {size before : Nat} {fields : List (Field Value)}
    (defaults : DefaultsHold holds fields) {items : List Node} {values : Values fields}
    (found : ofItems read record size fields before items = .ok values) :
    Values.All holds fields values := by
  induction fields generalizing before items with
  | nil => trivial
  | cons field fields ih =>
    simp only [DefaultsHold, List.forall_mem_cons] at defaults
    simp only [ofItems] at found
    split at found
    · contradiction
    · next value first =>
      split at found
      · contradiction
      · next values' later =>
        cases found
        refine ⟨?_, ih defaults.2 later⟩
        split at first
        · exact reads _ _ _ first
        · next default =>
          cases first
          exact defaults.1 _ default
        · contradiction

/-- What holds of all that is read, and of the defaults, holds of the values of a record. -/
theorem all_readRecord {schema : Schema Value} (defaults : DefaultsHold holds schema.fields)
    {node : Node} {values : Values schema.fields}
    (found : readRecord read schema node = .ok values) :
    Values.All holds schema.fields values := by
  unfold readRecord at found
  split at found
  · exact all_ofMembers reads defaults found
  · exact all_ofMembers reads defaults found
  · exact all_ofMembers reads defaults found
  · exact all_ofItems reads defaults found
  · exact all_ofItems reads defaults found
  · contradiction

end

end RoundKey.Toml
