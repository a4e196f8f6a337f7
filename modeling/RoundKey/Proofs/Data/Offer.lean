import RoundKey.Proofs.Data.Record

/-!
# Records from members in any order

What a member of a document offers to a record is its name, its value as each kind, and whether it
may be passed by. A record is read exactly if every field either takes the value of the one member
of its name, or has a default and no member of its name, and every other member may be passed by.
So neither the order of the members nor members of other names have a part in the values.
-/
namespace RoundKey.Data

variable {Kind : Type} {Value : Kind → Type}

/-- An outcome is a value exactly if it is that value up to the reasons of failures. -/
theorem toOption_eq_some_iff {ε α : Type} {outcome : Except ε α} {value : α} :
    outcome.toOption = some value ↔ outcome = .ok value := by
  cases outcome <;> simp [Except.toOption]

/-- What a member of a document offers to a record. -/
structure Offer (Value : Kind → Type) where
  /-- The name of the member. -/
  name : String
  /-- Its value as a kind, if it is one. -/
  value? : (kind : Kind) → Option (Value kind)
  /-- Whether it may be passed by. -/
  passes : Bool

/-- The offers of a name, in order. -/
def offersOf (name : String) (offers : List (Offer Value)) : List (Offer Value) :=
  offers.filter fun offer => offer.name = name

/-- The members of a name, in order. -/
def membersNamed {α : Type} (name : String) (members : List (String × α)) : List (String × α) :=
  members.filter fun member => member.1 = name

/-- The offers of a name are those of the members of that name. -/
theorem offersOf_map {α : Type} {offer : String × α → Offer Value}
    (keeps : ∀ member, (offer member).name = member.1) (name : String)
    (members : List (String × α)) :
    offersOf name (members.map offer) = (membersNamed name members).map offer := by
  rw [offersOf, membersNamed, List.filter_map]
  congr 2
  funext member
  simp only [Function.comp_apply, keeps]

/-- Each field has the value that the one offer of its name has, or its default if there is no offer
of its name. -/
def Values.Offered (offers : List (Offer Value)) :
    (fields : List (Field Value)) → Values fields → Prop
  | [], () => True
  | field :: fields, (value, values) =>
    ((∃ offer, offersOf field.name offers = [offer] ∧ offer.value? field.kind = some value) ∨
      (offersOf field.name offers = [] ∧ field.absent = some value)) ∧
    Offered offers fields values

/-- Every offer that no field has a place for may be passed by. -/
def OthersPass (offers : List (Offer Value)) (fields : List (Field Value)) : Prop :=
  ∀ offer ∈ offers, offer.name ∉ fields.map Field.name → offer.passes = true

namespace Slots

/-- Put an offer into the empty slot of its name, or pass it by if no field has the name. -/
def put (offer : Offer Value) :
    (fields : List (Field Value)) → Slots fields → Option (Slots fields)
  | [], () => if offer.passes then some () else none
  | field :: fields, (slot, slots) =>
    if field.name = offer.name then
      match slot with
      | some _ => none
      | none => (offer.value? field.kind).map fun value => (some value, slots)
    else (put offer fields slots).map fun slots => (slot, slots)

/-- An offer of the name of a field goes into its slot if the slot is empty. -/
theorem put_of_eq {offer : Offer Value} {field : Field Value} {fields : List (Field Value)}
    {slot : Option (Value field.kind)} {slots : Slots fields} (named : field.name = offer.name) :
    put offer (field :: fields) (slot, slots) =
      match slot with
      | some _ => none
      | none => (offer.value? field.kind).map fun value => (some value, slots) := by
  rw [put.eq_def]
  exact if_pos named

/-- An offer of another name passes by a field. -/
theorem put_of_ne {offer : Offer Value} {field : Field Value} {fields : List (Field Value)}
    {slot : Option (Value field.kind)} {slots : Slots fields} (other : field.name ≠ offer.name) :
    put offer (field :: fields) (slot, slots) =
      (put offer fields slots).map fun slots => (slot, slots) := by
  rw [put.eq_def]
  exact if_neg other

/-- What offers nothing and may not be passed by is not put. -/
theorem put_eq_none {offer : Offer Value} (noValue : ∀ kind, offer.value? kind = none)
    (noPass : offer.passes = false) (fields : List (Field Value)) (slots : Slots fields) :
    put offer fields slots = none := by
  induction fields with
  | nil => simp [put, noPass]
  | cons field fields ih =>
    obtain ⟨slot, slots⟩ := slots
    by_cases named : field.name = offer.name
    · cases slot <;> simp [put_of_eq named, noValue]
    · rw [put_of_ne named, ih, Option.map_none]

/-- Put offers into their slots, one after another. -/
def fill (fields : List (Field Value)) (slots : Slots fields) (offers : List (Offer Value)) :
    Option (Slots fields) :=
  offers.foldlM (fun slots offer => put offer fields slots) slots

/-- A member is placed as what it offers is put. -/
theorem toOption_place {Failure Rest : Type} {duplicate : String → Failure}
    {read : (kind : Kind) → Except Failure (Value kind × Rest)} {skip : Except Failure Rest}
    (offer : Offer Value) {rest : Rest}
    (reads : ∀ kind, (read kind).toOption = (offer.value? kind).map fun value => (value, rest))
    (skips : skip.toOption = if offer.passes then some rest else none)
    (fields : List (Field Value)) (slots : Slots fields) :
    (place duplicate read skip offer.name fields slots).toOption =
      (put offer fields slots).map fun slots => (slots, rest) := by
  induction fields with
  | nil =>
    rw [place.eq_def, put]
    cases outcome : skip <;> cases passes : offer.passes <;>
      simp_all [Except.toOption]
  | cons field fields ih =>
    obtain ⟨slot, slots⟩ := slots
    by_cases named : field.name = offer.name
    · cases slot with
      | some value => simp [place, put, named, Except.toOption]
      | none =>
        have found := reads field.kind
        rw [place.eq_def, put]
        cases outcome : read field.kind <;> cases value : offer.value? field.kind <;>
          simp_all [Except.toOption]
    · have later := ih slots
      rw [place_of_ne named, put_of_ne named]
      cases outcome : place duplicate read skip offer.name fields slots <;>
        cases placed : put offer fields slots <;>
        simp_all [Except.toOption, Except.map]

/-- What becomes of one slot with all offers of its name. -/
def fillSlot (kind : Kind) (slot : Option (Value kind)) :
    List (Offer Value) → Option (Option (Value kind))
  | [] => some slot
  | offer :: offers =>
    match slot with
    | some _ => none
    | none => (offer.value? kind).bind fun value => fillSlot kind (some value) offers

/-- An empty slot stays empty, or takes its value from a single offer. -/
theorem fillSlot_none_eq_some_iff {kind : Kind} {offers : List (Offer Value)}
    {slot : Option (Value kind)} :
    fillSlot kind none offers = some slot ↔
      (offers = [] ∧ slot = none) ∨
        ∃ offer value, offers = [offer] ∧ offer.value? kind = some value ∧ slot = some value := by
  cases offers with
  | nil => simp [fillSlot, eq_comm]
  | cons offer offers =>
    cases offers with
    | nil =>
      cases value : offer.value? kind <;> simp [fillSlot, value, eq_comm]
    | cons next offers => simp [fillSlot]

/-- Each slot takes the offers of its name, and leaves the others to the later slots. -/
theorem fill_cons (field : Field Value) (fields : List (Field Value))
    (slot : Option (Value field.kind)) (slots : Slots fields) (offers : List (Offer Value)) :
    fill (field :: fields) (slot, slots) offers =
      (fillSlot field.kind slot (offersOf field.name offers)).bind fun slot =>
        (fill fields slots (offers.filter fun offer => offer.name ≠ field.name)).map fun slots =>
          (slot, slots) := by
  induction offers generalizing slot slots with
  | nil => rfl
  | cons offer offers ih =>
    rw [fill, List.foldlM_cons]
    by_cases named : field.name = offer.name
    · have taken : offersOf field.name (offer :: offers) =
          offer :: offersOf field.name offers := by simp [offersOf, named]
      rw [put.eq_def, taken, List.filter_cons_of_neg (by simp [named])]
      simp only [if_pos named]
      cases slot with
      | some value => rfl
      | none =>
        cases value : offer.value? field.kind with
        | none => simp [fillSlot, value]
        | some value' =>
          have later := ih (some value') slots
          rw [fill] at later
          simp [fillSlot, value, later]
    · have other : offersOf field.name (offer :: offers) = offersOf field.name offers := by
        simp [offersOf, Ne.symm named]
      rw [put_of_ne named, other, List.filter_cons_of_pos (by simpa using Ne.symm named), fill,
        List.foldlM_cons]
      cases placed : put offer fields slots with
      | none => simp
      | some slots' =>
        have later := ih slot slots'
        rw [fill, fill] at later
        simp [later]

/-- Without fields, all offers are passed by. -/
theorem fill_nil_eq_some_iff {offers : List (Offer Value)} :
    fill [] () offers = some () ↔ ∀ offer ∈ offers, offer.passes = true := by
  induction offers with
  | nil => simp [fill]
  | cons offer offers ih =>
    rw [fill, List.foldlM_cons, put, List.forall_mem_cons, ← ih]
    cases passes : offer.passes <;> simp [fill]

/-- The values of a record are those of the first slot and of the later ones. -/
theorem finish_cons_eq_ok_iff {field : Field Value} {fields : List (Field Value)}
    {slot : Option (Value field.kind)} {slots : Slots fields} {value : Value field.kind}
    {values : Values fields} :
    finish (field :: fields) (slot, slots) = .ok (value, values) ↔
      (slot <|> field.absent) = some value ∧ finish fields slots = .ok values := by
  rw [finish.eq_def]
  cases chosen : (slot <|> field.absent) with
  | none => simp [chosen]
  | some value' => cases later : finish fields slots <;> simp [chosen, later]

/-- A slot gives a value exactly if a single offer does, or there is none and it is the default. -/
theorem exists_fillSlot_iff {kind : Kind} {offers : List (Offer Value)}
    {absent : Option (Value kind)} {value : Value kind} :
    (∃ slot, fillSlot kind none offers = some slot ∧ (slot <|> absent) = some value) ↔
      (∃ offer, offers = [offer] ∧ offer.value? kind = some value) ∨
        (offers = [] ∧ absent = some value) := by
  simp only [fillSlot_none_eq_some_iff]
  constructor
  · rintro ⟨slot, ⟨none, rfl⟩ | ⟨offer, taken, single, read, rfl⟩, chosen⟩
    · exact .inr ⟨none, by simpa using chosen⟩
    · exact .inl ⟨offer, single, by simpa [read] using chosen⟩
  · rintro (⟨offer, single, read⟩ | ⟨none, default⟩)
    · exact ⟨some value, .inr ⟨offer, value, single, read, rfl⟩, rfl⟩
    · exact ⟨_, .inl ⟨none, rfl⟩, by simpa using default⟩

/-- A record is read exactly if its first slot gives the first value and the other slots give the
others. -/
theorem exists_fill_cons_iff {field : Field Value} {fields : List (Field Value)}
    {offers : List (Offer Value)} {value : Value field.kind} {values : Values fields} :
    (∃ slots, fill (field :: fields) (empty (field :: fields)) offers = some slots ∧
        finish (field :: fields) slots = .ok (value, values)) ↔
      (∃ slot, fillSlot field.kind none (offersOf field.name offers) = some slot ∧
        (slot <|> field.absent) = some value) ∧
      ∃ slots, fill fields (empty fields) (offers.filter fun offer => offer.name ≠ field.name) =
          some slots ∧
        finish fields slots = .ok values := by
  rw [empty, fill_cons]
  constructor
  · rintro ⟨⟨slot, slots⟩, filled, finished⟩
    obtain ⟨slot', first, rest⟩ := Option.bind_eq_some_iff.mp filled
    obtain ⟨slots', rest, same⟩ := Option.map_eq_some_iff.mp rest
    cases same
    obtain ⟨chosen, finished⟩ := finish_cons_eq_ok_iff.mp finished
    exact ⟨⟨slot, first, chosen⟩, slots, rest, finished⟩
  · rintro ⟨⟨slot, first, chosen⟩, slots, rest, finished⟩
    refine ⟨(slot, slots), ?_, finish_cons_eq_ok_iff.mpr ⟨chosen, finished⟩⟩
    rw [first, Option.bind_some, rest, Option.map_some]

end Slots

/-- Offers of a name are not among those of other names. -/
theorem offersOf_filter_ne {name other : String} (apart : name ≠ other)
    (offers : List (Offer Value)) :
    offersOf name (offers.filter fun offer => offer.name ≠ other) = offersOf name offers := by
  rw [offersOf, offersOf, List.filter_filter]
  apply List.filter_congr
  intro offer _
  by_cases named : offer.name = name <;> simp [named, apart]

/-- Values are offered alike by offers that are alike under the names of the fields, up to their
order. -/
theorem Values.offered_congr {offers offers' : List (Offer Value)} {fields : List (Field Value)}
    {values : Values fields}
    (alike : ∀ field ∈ fields, (offersOf field.name offers).Perm (offersOf field.name offers')) :
    Offered offers fields values ↔ Offered offers' fields values := by
  induction fields with
  | nil => simp [Offered]
  | cons field fields ih =>
    obtain ⟨value, values⟩ := values
    rw [List.forall_mem_cons] at alike
    have single (offer : Offer Value) :
        offersOf field.name offers = [offer] ↔ offersOf field.name offers' = [offer] := by
      rw [← List.perm_singleton, ← List.perm_singleton, alike.1.congr_left]
    have none : offersOf field.name offers = [] ↔ offersOf field.name offers' = [] := by
      rw [← List.perm_nil, ← List.perm_nil, alike.1.congr_left]
    simp only [Offered, single, none, ih alike.2]

/-- Neither the order of offers matters to the values of a record nor offers of other names. -/
theorem Values.offered_of_perm {offers rearranged dropped : List (Offer Value)}
    {fields : List (Field Value)} {values : Values fields}
    (perm : (rearranged ++ dropped).Perm offers)
    (others : ∀ offer ∈ dropped, offer.name ∉ fields.map Field.name) :
    Offered offers fields values ↔ Offered rearranged fields values := by
  apply offered_congr
  intro field inside
  have none : offersOf field.name dropped = [] := by
    apply List.filter_eq_nil_iff.mpr
    intro offer isDropped same
    exact others offer isDropped (of_decide_eq_true same ▸ List.mem_map_of_mem inside)
  have alike := perm.filter fun offer => offer.name = field.name
  rw [List.filter_append] at alike
  rw [offersOf, ← List.append_nil (offersOf field.name rearranged), ← none]
  exact alike.symm

/-- Offers that may be passed by may be passed by among fewer offers in any order. -/
theorem OthersPass.of_perm {offers rearranged dropped : List (Offer Value)}
    {fields : List (Field Value)} (pass : OthersPass offers fields)
    (perm : (rearranged ++ dropped).Perm offers) : OthersPass rearranged fields :=
  fun offer inside => pass offer (perm.mem_iff.mp (List.mem_append_left dropped inside))

/-- A record is read from offers exactly if they offer its values and all others may be passed by,
if no two fields share a name. -/
theorem Slots.exists_fill_iff {fields : List (Field Value)}
    (distinct : (fields.map Field.name).Nodup) {offers : List (Offer Value)}
    {values : Values fields} :
    (∃ slots, fill fields (empty fields) offers = some slots ∧ finish fields slots = .ok values) ↔
      Values.Offered offers fields values ∧ OthersPass offers fields := by
  induction fields generalizing offers with
  | nil =>
    simp only [Values.Offered, true_and, OthersPass, List.map_nil, List.not_mem_nil,
      not_false_eq_true, true_implies, ← fill_nil_eq_some_iff]
    constructor
    · rintro ⟨slots, filled, -⟩
      exact filled
    · exact fun filled => ⟨(), filled, rfl⟩
  | cons field fields ih =>
    obtain ⟨value, values⟩ := values
    obtain ⟨fresh, distinct⟩ := List.nodup_cons.mp distinct
    let others := offers.filter fun offer => offer.name ≠ field.name
    have apart : ∀ later ∈ fields, later.name ≠ field.name := fun later inside same =>
      fresh (same ▸ List.mem_map_of_mem inside)
    have later : Values.Offered others fields values ↔ Values.Offered offers fields values :=
      Values.offered_congr fun later inside =>
        .of_eq (offersOf_filter_ne (apart later inside) offers)
    have pass : OthersPass others fields ↔ OthersPass offers (field :: fields) := by
      simp only [OthersPass, others, List.mem_filter, decide_eq_true_eq, List.map_cons,
        List.mem_cons, not_or, and_imp]
    rw [exists_fill_cons_iff, exists_fillSlot_iff, ih distinct, later, pass, Values.Offered,
      and_assoc]

end RoundKey.Data
