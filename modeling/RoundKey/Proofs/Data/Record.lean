import RoundKey.Data.Record

/-!
# Slots that have been filled

A record whose fields have been read once each has a value in every slot, and finishing it gives
those values back, without looking at any default. A member goes to the one field of its name and
leaves the slots of all other fields alone, so the members of a record fill its slots in whatever
order they come. What holds of all values that are read holds of the values of the record.
-/
namespace RoundKey.Data

variable {Kind : Type} {Value : Kind → Type}

/-- Every value satisfies a condition on the values of its kind. -/
def Values.All (holds : (kind : Kind) → Value kind → Prop) :
    (fields : List (Field Value)) → Values fields → Prop
  | [], () => True
  | field :: fields, (value, values) => holds field.kind value ∧ All holds fields values

/-- Every default of a record satisfies a condition on the values of its kind. -/
def DefaultsHold (holds : (kind : Kind) → Value kind → Prop) (fields : List (Field Value)) : Prop :=
  ∀ field ∈ fields, ∀ value ∈ field.absent, holds field.kind value

/-- The value of a field, under the name of the field. -/
structure Entry {Kind : Type} (Value : Kind → Type) where
  /-- The name of the field. -/
  name : String
  /-- The kind of its values. -/
  kind : Kind
  /-- The value. -/
  value : Value kind

/-- The values of a record under their names, in order. -/
def Values.entries : (fields : List (Field Value)) → Values fields → List (Entry Value)
  | [], () => []
  | field :: fields, (value, values) => ⟨field.name, field.kind, value⟩ :: entries fields values

/-- The entries of a record have the names of its fields. -/
theorem Values.map_name_entries (fields : List (Field Value)) (values : Values fields) :
    (entries fields values).map Entry.name = fields.map Field.name := by
  induction fields with
  | nil => rfl
  | cons field fields ih => simp [entries, ih]

/-- A condition on every value is one on every entry. -/
theorem Values.all_iff {holds : (kind : Kind) → Value kind → Prop} {fields : List (Field Value)}
    {values : Values fields} :
    All holds fields values ↔ ∀ entry ∈ entries fields values, holds entry.kind entry.value := by
  induction fields with
  | nil => simp [All, entries]
  | cons field fields ih =>
    obtain ⟨value, values⟩ := values
    rw [All, entries, List.forall_mem_cons, ih]

namespace Slots

/-- Every field has been read. -/
def full : (fields : List (Field Value)) → Values fields → Slots fields
  | [], () => ()
  | _ :: fields, (value, values) => (some value, full fields values)

/-- Finishing gives back what has been read. -/
theorem finish_full (fields : List (Field Value)) (values : Values fields) :
    finish fields (full fields values) = .ok values := by
  induction fields with
  | nil => rfl
  | cons field fields ih =>
    obtain ⟨value, values⟩ := values
    simp [full, finish, ih values]

variable {Failure Rest : Type} {duplicate : String → Failure}
  {read : (kind : Kind) → Except Failure (Value kind × Rest)} {skip : Except Failure Rest}

/-- A member is read into the empty slot of the field of its name. -/
theorem place_of_eq {field : Field Value} {fields : List (Field Value)} {slots : Slots fields}
    {value : Value field.kind} {rest : Rest} (found : read field.kind = .ok (value, rest)) :
    place duplicate read skip field.name (field :: fields) (none, slots) =
      .ok ((some value, slots), rest) := by
  simp [place, found]

/-- A member of another name passes by a field. -/
theorem place_of_ne {name : String} {field : Field Value} {fields : List (Field Value)}
    {slot : Option (Value field.kind)} {slots : Slots fields} (other : field.name ≠ name) :
    place duplicate read skip name (field :: fields) (slot, slots) =
      (place duplicate read skip name fields slots).map fun placed =>
        ((slot, placed.1), placed.2) := by
  rw [place.eq_def]
  simp only [if_neg other]
  cases place duplicate read skip name fields slots <;> rfl

/-- Every field has been read but those of these names. -/
def except (names : List String) : (fields : List (Field Value)) → Values fields → Slots fields
  | [], () => ()
  | field :: fields, (value, values) =>
    (if field.name ∈ names then none else some value, except names fields values)

/-- Without the names of any field, no field has been read. -/
theorem except_eq_empty {names : List String} {fields : List (Field Value)}
    (all : ∀ field ∈ fields, field.name ∈ names) (values : Values fields) :
    except names fields values = empty fields := by
  induction fields with
  | nil => rfl
  | cons field fields ih =>
    rw [List.forall_mem_cons] at all
    rw [except, empty, if_pos all.1, ih all.2]

/-- Without the names of its entries, nothing of a record has been read. -/
theorem except_entries (fields : List (Field Value)) (values : Values fields) :
    except ((Values.entries fields values).map Entry.name) fields values = empty fields := by
  rw [Values.map_name_entries]
  exact except_eq_empty (fun _ inside => List.mem_map_of_mem inside) values

/-- Without no name, every field has been read. -/
theorem except_nil (fields : List (Field Value)) (values : Values fields) :
    except [] fields values = full fields values := by
  induction fields with
  | nil => rfl
  | cons field fields ih =>
    obtain ⟨value, values⟩ := values
    rw [except, full, if_neg List.not_mem_nil, ih]

/-- A name that no field has makes no difference. -/
theorem except_cons_of_notMem {name : String} {names : List String} {fields : List (Field Value)}
    (other : name ∉ fields.map Field.name) (values : Values fields) :
    except (name :: names) fields values = except names fields values := by
  induction fields with
  | nil => rfl
  | cons field fields ih =>
    obtain ⟨value, values⟩ := values
    simp only [List.map_cons, List.mem_cons, not_or] at other
    have same : field.name ∈ name :: names ↔ field.name ∈ names :=
      ⟨fun inside => (List.mem_cons.mp inside).resolve_left (Ne.symm other.1),
        List.mem_cons_of_mem name⟩
    simp only [except, same, ih other.2]

/-- A member that is read as the entry of its name fills the slot of that entry, if no two fields
share a name. -/
theorem place_except {names : List String} {fields : List (Field Value)} {values : Values fields}
    {entry : Entry Value} {rest : Rest} (distinct : (fields.map Field.name).Nodup)
    (inside : entry ∈ Values.entries fields values) (fresh : entry.name ∉ names)
    (found : read entry.kind = .ok (entry.value, rest)) :
    place duplicate read skip entry.name fields (except (entry.name :: names) fields values) =
      .ok (except names fields values, rest) := by
  induction fields with
  | nil => exact absurd inside List.not_mem_nil
  | cons field fields ih =>
    obtain ⟨value, values⟩ := values
    rw [List.map_cons, List.nodup_cons] at distinct
    rcases List.mem_cons.mp inside with rfl | later
    · have alone : except (field.name :: names) fields values = except names fields values :=
        except_cons_of_notMem distinct.1 values
      simp only [except, List.mem_cons_self, ↓reduceIte, if_neg fresh, alone]
      exact place_of_eq found
    · have named : entry.name ∈ fields.map Field.name := by
        rw [← Values.map_name_entries fields values]
        exact List.mem_map_of_mem later
      have other : field.name ≠ entry.name := fun same => distinct.1 (same ▸ named)
      have same : field.name ∈ entry.name :: names ↔ field.name ∈ names :=
        ⟨fun inside => (List.mem_cons.mp inside).resolve_left other,
          List.mem_cons_of_mem entry.name⟩
      simp only [except, same]
      rw [place_of_ne other, ih distinct.2 later]
      rfl

/-- Every value that has been read satisfies a condition on the values of its kind. -/
def All (holds : (kind : Kind) → Value kind → Prop) :
    (fields : List (Field Value)) → Slots fields → Prop
  | [], () => True
  | field :: fields, (slot, slots) =>
    (∀ value ∈ slot, holds field.kind value) ∧ All holds fields slots

variable {holds : (kind : Kind) → Value kind → Prop}

/-- As long as nothing has been read, there is no value to violate a condition. -/
theorem all_empty (fields : List (Field Value)) : All holds fields (empty fields) := by
  induction fields with
  | nil => trivial
  | cons field fields ih => exact ⟨by simp, ih⟩

/-- A condition on what is read holds in every slot after a member has been placed. -/
theorem All.place
    (reads : ∀ kind value rest, read kind = .ok (value, rest) → holds kind value)
    {name : String} {fields : List (Field Value)} {slots next : Slots fields} {rest : Rest}
    (all : All holds fields slots)
    (placed : place duplicate read skip name fields slots = .ok (next, rest)) :
    All holds fields next := by
  induction fields with
  | nil => trivial
  | cons field fields ih =>
    obtain ⟨slot, slots⟩ := slots
    obtain ⟨first, others⟩ := all
    by_cases named : field.name = name
    · subst named
      cases slot with
      | some value => simp [Slots.place] at placed
      | none =>
        simp only [Slots.place, if_true] at placed
        cases found : read field.kind with
        | error failure => simp [found] at placed
        | ok result =>
          obtain ⟨value, left⟩ := result
          simp only [found, Except.ok.injEq, Prod.mk.injEq] at placed
          obtain ⟨rfl, rfl⟩ := placed
          have valid : holds field.kind value := reads field.kind value left found
          exact ⟨by simpa using valid, others⟩
    · rw [place_of_ne named] at placed
      cases later : Slots.place duplicate read skip name fields slots with
      | error failure => simp [later, Except.map] at placed
      | ok result =>
        obtain ⟨slots', left⟩ := result
        simp only [later, Except.map, Except.ok.injEq, Prod.mk.injEq] at placed
        obtain ⟨rfl, rfl⟩ := placed
        exact ⟨first, ih others later⟩

/-- A condition that holds of every slot and of every default holds of the values. -/
theorem All.finish {fields : List (Field Value)} {slots : Slots fields} {values : Values fields}
    (defaults : DefaultsHold holds fields) (all : All holds fields slots)
    (finished : finish fields slots = .ok values) : Values.All holds fields values := by
  induction fields with
  | nil => trivial
  | cons field fields ih =>
    obtain ⟨slot, slots⟩ := slots
    obtain ⟨first, others⟩ := all
    simp only [DefaultsHold, List.forall_mem_cons] at defaults
    rw [Slots.finish.eq_def] at finished
    simp only at finished
    cases chosen : (slot <|> field.absent) with
    | none => simp [chosen] at finished
    | some value =>
      have valid : holds field.kind value := by
        cases slot with
        | some read => exact first value (by simpa using chosen)
        | none => exact defaults.1 value (by simpa using chosen)
      cases later : Slots.finish fields slots with
      | error mismatch => simp [chosen, later] at finished
      | ok values' =>
        simp only [chosen, later, Except.ok.injEq] at finished
        subst finished
        exact ⟨valid, ih defaults.2 others later⟩

end Slots

end RoundKey.Data
