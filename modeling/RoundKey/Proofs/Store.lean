import RoundKey.Program
import RoundKey.Proofs.Config

/-!
# What a store keeps

Nothing but a write to its own place ever changes a file, and nothing at all changes a folder, so
every path that has led to a saved configuration leads to it from then on. The configuration in use
is valid whatever it was taken from, and a valid configuration is read back from its file. Together:
what has been saved can be loaded again, as it was, until a file is written in its place. A save has
two ways to fail. If no file can be made, nothing has changed; if the file that was made cannot be
written in full, it stays behind.
-/
namespace RoundKey

/-- What there is space for is written as it is. -/
theorem Space.cut_of_holds {space : Space} {content : List UInt8}
    (holds : space.holds content = true) : space.cut content = content := by
  cases space with
  | none => rfl
  | some count =>
    rw [Space.holds, Option.all_some, decide_eq_true_eq] at holds
    exact List.take_of_length_le holds

namespace Directory

variable {directory next : Directory} {path : Path} {place : Place} {entry : Entry}

/-- Dropping what is stored at one place leaves the entries at all others. -/
theorem entry?_filter {key : Place} (other : key ≠ place) :
    entry? (directory.filter fun stored => stored.1 ≠ place) key = directory.entry? key := by
  induction directory with
  | nil => rfl
  | cons stored rest ih =>
    by_cases here : stored.1 = place
    · have elsewhere : stored.1 ≠ key := fun same => other (same ▸ here)
      rw [List.filter_cons_of_neg (by simpa using here), ih, entry?, if_neg elsewhere]
    · rw [List.filter_cons_of_pos (by simpa using here), entry?, entry?, ih]

/-- An entry that has been put is at its place. -/
theorem entry?_put (directory : Directory) (place : Place) (entry : Entry) :
    entry? (directory.put place entry) place = some entry := by
  rw [put, entry?, if_pos rfl]

/-- Putting an entry at one place leaves the entries at all others. -/
theorem entry?_put_of_ne {key : Place} (other : key ≠ place) :
    entry? (directory.put place entry) key = directory.entry? key := by
  rw [put, entry?, if_neg (Ne.symm other), entry?_filter other]

/-- Of two entries that are put at one place the second stays. -/
theorem put_put (directory : Directory) (place : Place) (first second : Entry) :
    (directory.put place first).put place second = directory.put place second := by
  rw [put, put, put, List.filter_cons_of_neg (by simp), List.filter_filter]
  simp

/-- Folders lead where their names do. -/
theorem eq_of_pass {names : List String} {folder : Place}
    (passed : directory.pass place names = .ok folder) : folder = names.foldl Place.step place := by
  induction names generalizing place with
  | nil =>
    cases passed
    rfl
  | cons name names ih =>
    rw [List.foldl_cons]
    by_cases back : name = ".."
    · simp only [pass, if_pos back] at passed
      exact ih passed
    · simp only [pass, if_neg back] at passed
      split at passed
      · contradiction
      · contradiction
      · exact ih passed

/-- A path that names an entry names that of its place. -/
theorem eq_of_locate (located : directory.locate path = .ok (some place)) :
    place = path.place := by
  unfold locate at located
  split at located
  · contradiction
  · next folder passed =>
    cases named : path.name with
    | none => simp [named] at located
    | some name =>
      simp only [named, Option.map_some, Except.ok.injEq, Option.some.injEq] at located
      rw [← located, eq_of_pass passed, Path.place, named, List.foldl_append]
      rfl

/-- Every folder of a directory is one of another. -/
def FoldersStay (directory next : Directory) : Prop :=
  ∀ place, directory.entry? place = some .folder → next.entry? place = some .folder

/-- Folders that stay lead to the same place. -/
theorem FoldersStay.pass {names : List String} {folder : Place}
    (stay : directory.FoldersStay next)
    (passed : directory.pass place names = .ok folder) : next.pass place names = .ok folder := by
  induction names generalizing place with
  | nil => exact passed
  | cons name names ih =>
    by_cases back : name = ".."
    · simp only [Directory.pass, if_pos back] at passed ⊢
      exact ih passed
    · simp only [Directory.pass, if_neg back] at passed ⊢
      cases found : directory.entry? (place.step name) with
      | none => simp [found] at passed
      | some entry =>
        cases entry with
        | file content mode => simp [found] at passed
        | folder =>
          simp only [found] at passed
          rw [stay _ found]
          exact ih passed

/-- A path means the same as long as folders stay. -/
theorem FoldersStay.locate {target : Option Place} (stay : directory.FoldersStay next)
    (located : directory.locate path = .ok target) : next.locate path = .ok target := by
  unfold Directory.locate at located ⊢
  cases passed : directory.pass [] path.way with
  | error fault => simp [passed] at located
  | ok folder =>
    rw [passed] at located
    rw [stay.pass passed]
    exact located

/-- The file at a path is read. -/
theorem read_eq_ok {content : List UInt8} {mode : Nat}
    (located : directory.locate path = .ok (some place))
    (stored : directory.entry? place = some (.file content mode)) (ends : path.slash = false) :
    directory.read path = .ok (content, mode) := by
  simp [read, located, stored, ends]

/-- An entry is made exactly where there was none, at the place that the path leads to. -/
theorem create_eq_ok_iff : directory.create path entry = .ok next ↔
    directory.locate path = .ok (some path.place) ∧ directory.entry? path.place = none ∧
    next = directory.put path.place entry := by
  constructor
  · intro made
    unfold create at made
    split at made
    · contradiction
    · contradiction
    · next place located =>
      cases eq_of_locate located
      split at made
      · contradiction
      · next vacant =>
        cases made
        exact ⟨located, vacant, rfl⟩
  · rintro ⟨located, vacant, rfl⟩
    simp only [create, located, vacant]

/-- There is room for a new file at a path: it leads through folders to a place where nothing is,
and no slash ends it. -/
structure HasRoom (directory : Directory) (path : Path) : Prop where
  /-- No slash asks for a folder. -/
  ends : path.slash = false
  /-- The path leads to its place. -/
  located : directory.locate path = .ok (some path.place)
  /-- Nothing is at the place. -/
  vacant : directory.entry? path.place = none

/-- An empty file is made exactly where there is room for it. -/
theorem createFile_eq_ok_iff {mode : Nat} : directory.createFile path mode = .ok next ↔
    directory.HasRoom path ∧ next = directory.put path.place (.file [] mode) := by
  cases ends : path.slash with
  | true =>
    have noRoom : ¬ directory.HasRoom path := by
      intro room
      rw [room.ends] at ends
      contradiction
    cases located : directory.locate path with
    | error fault => simp [createFile, ends, located, noRoom]
    | ok target => simp [createFile, ends, located, noRoom]
  | false =>
    have same : directory.createFile path mode = directory.create path (.file [] mode) := by
      simp [createFile, ends]
    rw [same, create_eq_ok_iff]
    constructor
    · rintro ⟨located, vacant, after⟩
      exact ⟨⟨ends, located, vacant⟩, after⟩
    · rintro ⟨room, after⟩
      exact ⟨room.located, room.vacant, after⟩

/-- A file is written at its place only if that is no folder. -/
theorem of_write {content : List UInt8} (written : directory.write path content = .ok next) :
    directory.entry? path.place ≠ some .folder ∧
    next = directory.put path.place (.file content sharedMode) := by
  unfold write at written
  split at written
  · contradiction
  · contradiction
  · next place located =>
    cases eq_of_locate located
    split at written
    · contradiction
    · split at written
      · contradiction
      · next noFolder =>
        cases written
        exact ⟨noFolder, rfl⟩

end Directory

namespace Config

variable {directory next : Directory} {path : Path} {config : Config} {space : Space}

/-- Where there is room, as much of a configuration is written to a new file as there is space for.
Only its owner can read the file. The save fails if that is not all. -/
theorem save_of_hasRoom (config : Config) (space : Space) (room : directory.HasRoom path) :
    config.save directory path space =
      (directory.put path.place (.file (space.cut config.toBytes) 0o600),
        if space.holds config.toBytes then .ok () else .error (.file .cutShort)) := by
  have opened : directory.createFile path Directory.ownerMode = .ok _ :=
    Directory.createFile_eq_ok_iff.mpr ⟨room, rfl⟩
  simp only [save, opened, Directory.fill, Directory.put_put]
  cases space.holds config.toBytes <;> rfl

/-- Where there is no room, a save fails and changes nothing. -/
theorem save_of_not_hasRoom (config : Config) (space : Space) (noRoom : ¬directory.HasRoom path) :
    ∃ fault, config.save directory path space = (directory, .error (.file fault)) := by
  cases opened : directory.createFile path Directory.ownerMode with
  | error fault => exact ⟨fault, by simp only [save, opened]⟩
  | ok next => exact absurd (Directory.createFile_eq_ok_iff.mp opened).1 noRoom

/-- A configuration is saved exactly where there is room for a file and space for all of it, in a
file that only its owner can read. -/
theorem save_eq_ok_iff : config.save directory path space = (next, .ok ()) ↔
    directory.HasRoom path ∧ space.holds config.toBytes = true ∧
    next = directory.put path.place (.file config.toBytes 0o600) := by
  by_cases room : directory.HasRoom path
  · rw [save_of_hasRoom config space room]
    by_cases holds : space.holds config.toBytes = true
    · simp [room, holds, Space.cut_of_holds holds, eq_comm]
    · simp [holds]
  · obtain ⟨fault, failed⟩ := save_of_not_hasRoom config space room
    simp [failed, room]

/-- A valid configuration is loaded from its file. -/
theorem load_eq_ok {mode : Nat} (valid : config.IsValid)
    (located : directory.locate path = .ok (some path.place))
    (stored : directory.entry? path.place = some (.file config.toBytes mode))
    (ends : path.slash = false) : load directory path = .ok config := by
  rw [load, Directory.read_eq_ok located stored ends]
  exact ofBytes_toBytes valid

/-- Every configuration that a file holds is valid. -/
theorem isValid_of_load (loaded : load directory path = .ok config) : config.IsValid := by
  unfold load at loaded
  split at loaded
  · contradiction
  · exact isValid_of_ofBytes loaded

/-- Every configuration that is generated for the bytes of a point is valid. -/
theorem isValid_of_generateFor? {username address : String} {key : Ed25519.PublicKey}
    {randomness rest : Randomness} (point : key.point?.isSome = true)
    (generated : generateFor? username address key randomness = some (.ok config, rest)) :
    config.IsValid := by
  unfold generateFor? at generated
  split at generated
  · simp at generated
  · next server created =>
    obtain ⟨-, rfl⟩ := ServerIdentity.create_eq_ok_iff.mp created
    obtain ⟨⟨drawn, left⟩, -, same⟩ := Option.map_eq_some_iff.mp generated
    have passed : check ⟨username, ⟨drawn⟩, server⟩ = .ok config := (Prod.mk.inj same).1
    exact isValid_of_check passed point

end Config

/-- The server key of a step is the bytes of a point, as every public key that was read is. -/
def StoreStep.HasPoint : StoreStep → Prop
  | .generate _ _ key => key.point?.isSome = true
  | _ => True

/-- A step writes a file at a place. -/
def StoreStep.WritesTo (step : StoreStep) (place : Place) : Prop :=
  ∃ path content, step = .write path content ∧ path.place = place

/-- A step came to nothing. -/
def StoreResult.IsFailure : StoreResult → Prop
  | .unusable _ => True
  | .refused _ => True
  | .noConfig => True
  | .noRandomness => True
  | _ => False

namespace Store

variable {store : Store} {step : StoreStep} {steps : List StoreStep}

/-- The configuration in use, if there is one, is valid. -/
def IsValid (store : Store) : Prop := ∀ config, store.current = some config → config.IsValid

/-- Choosing a configuration leaves the directory. -/
theorem directory_withConfig (store : Store) (outcome : Except ConfigFault Config) :
    (store.withConfig outcome).1.directory = store.directory := by
  cases outcome <;> rfl

/-- A configuration that could not be chosen leaves the directory and the one in use. -/
theorem withConfig_of_isFailure {outcome : Except ConfigFault Config}
    (failed : (store.withConfig outcome).2.IsFailure) :
    (store.withConfig outcome).1.directory = store.directory ∧
    (store.withConfig outcome).1.current = store.current := by
  cases outcome with
  | error fault => exact ⟨rfl, rfl⟩
  | ok config => exact failed.elim

/-- Choosing among valid configurations leaves a valid one in use. -/
theorem IsValid.withConfig {outcome : Except ConfigFault Config} (valid : store.IsValid)
    (fresh : ∀ config, outcome = .ok config → config.IsValid) :
    (store.withConfig outcome).1.IsValid := by
  cases outcome with
  | error fault => exact valid
  | ok chosen =>
    intro config current
    cases current
    exact fresh chosen rfl

/-- The directory changes to what was made of it, or not at all. -/
theorem directory_withDirectory (store : Store) (result : StoreResult)
    (outcome : Except FileFault Directory) :
    (store.withDirectory result outcome).1.directory = store.directory ∨
    outcome = .ok (store.withDirectory result outcome).1.directory := by
  cases outcome with
  | error fault => exact .inl rfl
  | ok directory => exact .inr rfl

/-- Changing the directory leaves a valid configuration in use. -/
theorem IsValid.withDirectory (valid : store.IsValid) (result : StoreResult)
    (outcome : Except FileFault Directory) : (store.withDirectory result outcome).1.IsValid := by
  cases outcome with
  | error fault => exact valid
  | ok directory => exact valid

/-- A directory that could not be changed stays. -/
theorem withDirectory_of_isFailure {result : StoreResult} {outcome : Except FileFault Directory}
    (success : ¬ result.IsFailure) (failed : (store.withDirectory result outcome).2.IsFailure) :
    (store.withDirectory result outcome).1.directory = store.directory ∧
    (store.withDirectory result outcome).1.current = store.current := by
  cases outcome with
  | error fault => exact ⟨rfl, rfl⟩
  | ok directory => exact absurd failed success

/-- The store after a save that has made a file, with as much of the configuration as there is space
for. -/
def withFile (store : Store) (path : Path) (space : Space) (config : Config) : Store :=
  { store with
    directory := store.directory.put path.place (.file (space.cut config.toBytes) 0o600) }

/-- Saving makes a file of the configuration in use where there is room, which holds all of it or is
left behind by a failure, or it fails and changes nothing. -/
theorem step_save (store : Store) (path : Path) (space : Space) :
    ((store.step (.save path space)).1 = store ∧
      (store.step (.save path space)).2 ≠ .saved) ∨
    ∃ config, store.current = some config ∧ store.directory.HasRoom path ∧
      store.step (.save path space) = (store.withFile path space config,
        if space.holds config.toBytes then .saved else .refused (.file .cutShort)) := by
  cases current : store.current with
  | none => exact .inl (by simp [step, current])
  | some config =>
    by_cases room : store.directory.HasRoom path
    · have saved := Config.save_of_hasRoom config space room
      refine .inr ⟨config, rfl, room, ?_⟩
      by_cases holds : space.holds config.toBytes = true
      · simp [step, current, saved, holds, withFile]
      · simp [step, current, saved, holds, withFile]
    · obtain ⟨fault, failed⟩ := Config.save_of_not_hasRoom config space room
      have unchanged : store.step (.save path space) = (store, .refused (.file fault)) := by
        simp only [step, current, failed]
        rw [← current]
      exact .inl (by simp [unchanged])

/-- A save succeeds exactly if there is a configuration to save, room for a file and space for all
of the configuration. -/
theorem step_save_eq_saved_iff {path : Path} {space : Space} :
    (store.step (.save path space)).2 = .saved ↔ store.directory.HasRoom path ∧
      ∃ config, store.current = some config ∧ space.holds config.toBytes = true := by
  constructor
  · intro success
    rcases store.step_save path space with ⟨-, failed⟩ | ⟨config, current, room, after⟩
    · exact absurd success failed
    · rw [after] at success
      refine ⟨room, config, current, ?_⟩
      cases holds : space.holds config.toBytes with
      | true => rfl
      | false =>
        rw [holds] at success
        contradiction
  · rintro ⟨room, config, current, holds⟩
    have saved : config.save store.directory path space = (_, .ok ()) :=
      Config.save_eq_ok_iff.mpr ⟨room, holds, rfl⟩
    simp only [step, current, saved]

/-- What a step does to the directory: nothing, or it puts an entry where nothing was, or it writes
a file where no folder was. -/
theorem step_directory (store : Store) (step : StoreStep) :
    (store.step step).1.directory = store.directory ∨
    (∃ place entry, store.directory.entry? place = none ∧
      (store.step step).1.directory = store.directory.put place entry) ∨
    (∃ path content, step = .write path content ∧
      store.directory.entry? path.place ≠ some .folder ∧
      (store.step step).1.directory =
        store.directory.put path.place (.file content Directory.sharedMode)) := by
  cases step with
  | write path content =>
    rcases store.directory_withDirectory .written (store.directory.write path content) with
      same | written
    · exact .inl same
    · exact .inr (.inr ⟨path, content, rfl, Directory.of_write written⟩)
  | makeFolder path =>
    rcases store.directory_withDirectory .made (store.directory.createFolder path) with
      same | made
    · exact .inl same
    · obtain ⟨-, vacant, after⟩ := Directory.create_eq_ok_iff.mp made
      exact .inr (.inl ⟨path.place, .folder, vacant, after⟩)
  | read path =>
    simp only [Store.step]
    split <;> exact .inl rfl
  | load path => exact .inl (store.directory_withConfig _)
  | parse text => exact .inl (store.directory_withConfig _)
  | generate username address key =>
    simp only [Store.step]
    split
    · exact .inl rfl
    · exact .inl (directory_withConfig _ _)
  | save path space =>
    rcases store.step_save path space with ⟨same, -⟩ | ⟨config, -, room, after⟩
    · exact .inl (by rw [same])
    · exact .inr (.inl ⟨path.place, _, room.vacant, by rw [after, withFile]⟩)

/-- If the step is a save that makes a file, the configuration is written to it in full. -/
def WritesInFull (store : Store) (step : StoreStep) : Prop :=
  ∀ path space config, step = .save path space → store.current = some config →
    store.directory.HasRoom path → space.holds config.toBytes = true

/-- A step that came to nothing changes neither the directory nor the configuration in use, if what
it writes to a file that it has made is written in full. -/
theorem step_of_isFailure (whole : store.WritesInFull step)
    (failed : (store.step step).2.IsFailure) :
    (store.step step).1.directory = store.directory ∧
    (store.step step).1.current = store.current := by
  cases step with
  | write path content => exact withDirectory_of_isFailure (fun written => written) failed
  | makeFolder path => exact withDirectory_of_isFailure (fun made => made) failed
  | read path =>
    simp only [step]
    split <;> exact ⟨rfl, rfl⟩
  | load path => exact withConfig_of_isFailure failed
  | parse text => exact withConfig_of_isFailure failed
  | generate username address key =>
    simp only [step] at failed ⊢
    split
    · exact ⟨rfl, rfl⟩
    · next outcome rest generated =>
      -- The draw stays spent, so the store is not the one before.
      rw [generated] at failed
      exact withConfig_of_isFailure failed
  | save path space =>
    rcases store.step_save path space with ⟨same, -⟩ | ⟨config, current, room, after⟩
    · rw [same]
      exact ⟨rfl, rfl⟩
    · rw [after, if_pos (whole path space config rfl current room)] at failed
      exact failed.elim

/-- A step that came to nothing leaves the configuration in use, also if it could not write all. -/
theorem current_of_isFailure (failed : (store.step step).2.IsFailure) :
    (store.step step).1.current = store.current := by
  by_cases saves : ∃ path space, step = .save path space
  · obtain ⟨path, space, rfl⟩ := saves
    rcases store.step_save path space with ⟨same, -⟩ | ⟨config, -, -, after⟩
    · rw [same]
    · rw [after, withFile]
  · have whole : store.WritesInFull step :=
      fun path space _ same => absurd ⟨path, space, same⟩ saves
    exact (step_of_isFailure whole failed).2

/-- Every step leaves a valid configuration in use. -/
theorem isValid_step (valid : store.IsValid) (point : step.HasPoint) :
    (store.step step).1.IsValid := by
  cases step with
  | write path content => exact valid.withDirectory _ _
  | makeFolder path => exact valid.withDirectory _ _
  | read path =>
    simp only [Store.step]
    split <;> exact valid
  | load path => exact valid.withConfig fun _ => Config.isValid_of_load
  | parse text => exact valid.withConfig fun _ => Config.isValid_of_ofToml
  | generate username address key =>
    simp only [Store.step]
    split
    · exact valid
    · next outcome rest generated =>
      have unchanged : IsValid { store with randomness := rest } := valid
      apply unchanged.withConfig
      rintro config rfl
      exact Config.isValid_of_generateFor? point generated
  | save path space =>
    rcases store.step_save path space with ⟨same, -⟩ | ⟨config, -, -, after⟩
    · rwa [same]
    · rw [after]
      exact valid

/-- An entry stays in every step that does not write a file at its place, and a folder in every
step. -/
theorem entry?_step {place : Place} {entry : Entry}
    (apart : entry = .folder ∨ ¬ step.WritesTo place)
    (here : store.directory.entry? place = some entry) :
    Directory.entry? (store.step step).1.directory place = some entry := by
  rcases store.step_directory step with
    same | ⟨key, made, vacant, after⟩ | ⟨path, content, rfl, noFolder, after⟩
  · rwa [same]
  · have other : place ≠ key := by
      rintro rfl
      rw [vacant] at here
      contradiction
    rwa [after, Directory.entry?_put_of_ne other]
  · have other : place ≠ path.place := by
      rintro rfl
      rcases apart with rfl | apart
      · exact noFolder here
      · exact apart ⟨path, content, rfl, rfl⟩
    rwa [after, Directory.entry?_put_of_ne other]

/-- What every step keeps, steps keep one after another. -/
theorem run_keeps {holds : Store → Prop}
    (keeps : ∀ store, ∀ step ∈ steps, holds store → holds (store.step step).1)
    (start : holds store) : holds (store.run steps).1 := by
  induction steps generalizing store with
  | nil => exact start
  | cons first steps ih =>
    have next : holds (store.step first).1 := keeps store first List.mem_cons_self start
    exact ih (fun store step later => keeps store step (List.mem_cons_of_mem first later)) next

/-- An entry stays as long as no file is written at its place, and a folder always. -/
theorem entry?_run {place : Place} {entry : Entry}
    (apart : entry = .folder ∨ ∀ step ∈ steps, ¬ step.WritesTo place)
    (here : store.directory.entry? place = some entry) :
    Directory.entry? (store.run steps).1.directory place = some entry := by
  have keeps : ∀ store : Store, ∀ step ∈ steps, store.directory.entry? place = some entry →
      Directory.entry? (store.step step).1.directory place = some entry :=
    fun _ step inside => entry?_step (apart.imp_right fun none => none step inside)
  exact run_keeps keeps here

/-- A successful save makes the file of the configuration in use, which only its owner can read,
where nothing was, and changes nothing else. Whatever steps follow, the configuration is loaded from
the same path, unless a file has been written at its place. -/
structure Saves (store : Store) (path : Path) (config : Config) (next : Store) : Prop where
  /-- The configuration is in use. -/
  current : store.current = some config
  /-- Nothing was at the place. -/
  vacant : store.directory.entry? path.place = none
  /-- The file is at the place now. -/
  stored : next.directory.entry? path.place = some (.file config.toBytes 0o600)
  /-- All other places are as they were. -/
  others : ∀ place, place ≠ path.place →
    next.directory.entry? place = store.directory.entry? place
  /-- The configuration is loaded again. -/
  comesBack : ∀ steps : List StoreStep, (∀ step ∈ steps, ¬ step.WritesTo path.place) →
    let later := (next.run steps).1
    later.step (.load path) = ({ later with current := some config }, .configured config)

/-- A valid configuration is loaded from the path that it was saved at after all steps that do not
write a file in its place. -/
theorem load_run {path : Path} {config : Config} {mode : Nat} (valid : config.IsValid)
    (located : store.directory.locate path = .ok (some path.place))
    (stored : store.directory.entry? path.place = some (.file config.toBytes mode))
    (ends : path.slash = false) (apart : ∀ step ∈ steps, ¬ step.WritesTo path.place) :
    Config.load (store.run steps).1.directory path = .ok config := by
  have folders : store.directory.FoldersStay (store.run steps).1.directory :=
    fun _ => entry?_run (.inl rfl)
  have laterLocated := folders.locate located
  have laterStored := entry?_run (.inr apart) stored
  exact Config.load_eq_ok valid laterLocated laterStored ends

/-- A save that succeeds does what it should, if the configuration in use is valid. -/
theorem saves_of_step {path : Path} {space : Space} (valid : store.IsValid)
    (success : (store.step (.save path space)).2 = .saved) :
    ∃ config, store.Saves path config (store.step (.save path space)).1 := by
  obtain ⟨room, config, current, holds⟩ := step_save_eq_saved_iff.mp success
  -- The new file is no folder, so the path still passes the same folders.
  have folders : store.directory.FoldersStay (store.step (.save path space)).1.directory :=
    fun _ => entry?_step (.inl rfl)
  have located := folders.locate room.located
  have saved : config.save store.directory path space = (_, .ok ()) :=
    Config.save_eq_ok_iff.mpr ⟨room, holds, rfl⟩
  have after : (store.step (.save path space)).1.directory =
      store.directory.put path.place (.file config.toBytes 0o600) := by
    simp only [step, current, saved]
  have stored : (store.step (.save path space)).1.directory.entry? path.place =
      some (.file config.toBytes 0o600) := by
    rw [after, Directory.entry?_put]
  refine ⟨config, current, room.vacant, stored, ?_, ?_⟩
  · intro place other
    rw [after, Directory.entry?_put_of_ne other]
  · intro steps apart later
    have loaded : Config.load later.directory path = .ok config :=
      load_run (valid config current) located stored room.ends apart
    simp only [step, loaded, withConfig]

/-- What may be relied on in a step: it changes nothing if it comes to nothing, it changes no entry
if it does not write a file, and if it saves a configuration, that can be loaded again. One step
that comes to nothing does change something: a save that has made a file and cannot write it in
full. -/
structure StepIsSafe (store : Store) (step : StoreStep) : Prop where
  /-- A step that comes to nothing changes neither the directory nor the configuration in use, if
  what it writes to a file that it has made is written in full. -/
  unchanged : store.WritesInFull step → (store.step step).2.IsFailure →
    (store.step step).1.directory = store.directory ∧
    (store.step step).1.current = store.current
  /-- A step that comes to nothing leaves the configuration in use in any case. -/
  current : (store.step step).2.IsFailure → (store.step step).1.current = store.current
  /-- A save that has made a file and cannot write it in full fails. It leaves the file where
  nothing was, with what could be written. -/
  cutShort : ∀ path space config, step = .save path space → store.current = some config →
    store.directory.HasRoom path → space.holds config.toBytes = false →
    store.step step = (store.withFile path space config, .refused (.file .cutShort))
  /-- A step that does not write a file leaves every entry. -/
  kept : (∀ place, ¬ step.WritesTo place) →
    ∀ place entry, store.directory.entry? place = some entry →
      Directory.entry? (store.step step).1.directory place = some entry
  /-- A save that succeeds has made a file that the configuration is loaded from. -/
  saves : ∀ path space, step = .save path space → (store.step step).2 = .saved →
    ∃ config, store.Saves path config (store.step step).1

/-- Every step is safe, as long as the configuration in use is valid. -/
theorem IsValid.stepIsSafe (valid : store.IsValid) (step : StoreStep) : store.StepIsSafe step where
  unchanged := step_of_isFailure
  current := current_of_isFailure
  cutShort := by
    rintro path space config rfl current room cut
    have failed := Config.save_of_hasRoom config space room
    simp [Store.step, current, failed, cut, withFile]
  kept := fun noWrite place _ => entry?_step (.inr (noWrite place))
  saves := by
    rintro path space rfl success
    exact saves_of_step valid success

/-- Steps leave a valid configuration in use. -/
theorem isValid_run (points : ∀ step ∈ steps, step.HasPoint) (valid : store.IsValid) :
    (store.run steps).1.IsValid := by
  have keeps : ∀ store : Store, ∀ step ∈ steps, store.IsValid → (store.step step).1.IsValid :=
    fun _ step inside valid => isValid_step valid (points step inside)
  exact run_keeps keeps valid

end Store

/-- The command that makes a configuration generates it and saves it. -/
theorem Surroundings.makeConfig_eq (surroundings : Surroundings)
    (path username address : String) (key : Ed25519.PublicKey) :
    let outcome := surroundings.makeConfig path username address key
    let store : Store := ⟨surroundings.directory, none, surroundings.randomness⟩
    let made := store.run
      [.generate username address key, .save (Path.ofText path) surroundings.space]
    outcome.directory = made.1.directory ∧
    (outcome.result = .ok [] ↔ ∃ config, made.2 = [.configured config, .saved]) ∧
    (outcome.result = .aborted ↔ made.2 = [.noRandomness, .noConfig]) := by
  simp only [makeConfig, fail, Store.run, Store.step, Config.generateFor?]
  cases ServerIdentity.create address key with
  | error fault => simp [Store.withConfig]
  | ok server =>
    cases draw? surroundings.randomness with
    | none => simp
    | some result =>
      obtain ⟨drawn, rest⟩ := result
      simp only [Option.map_some]
      cases Config.generate username server drawn with
      | error fault => simp [Store.withConfig]
      | ok config =>
        simp only [Store.withConfig]
        rcases config.save surroundings.directory (Path.ofText path) surroundings.space with
          ⟨directory, fault | ⟨⟩⟩ <;> simp

namespace Store

/-- Whatever is done with a store that starts with an empty directory, the configuration in use has
a username and a server identity that are valid. No step that comes to nothing changes the directory
or that configuration, as long as files that are made are written in full; else a failed save leaves
a new file, and nothing else changes. No step but a write changes an entry that is there. A save
succeeds exactly if there is a configuration, room for its file and space for all of it; it makes
one file that only its owner can read, and the configuration is loaded from there as it was after
all steps that do not write to its place. The command that makes a configuration is one step that
generates it and one that saves it. Server keys have to be the bytes of points, as public keys are
that were read. -/
theorem saved_configurations_come_back {randomness : Randomness} {steps : List StoreStep}
    (points : ∀ step ∈ steps, step.HasPoint) :
    let store := (run ⟨[], none, randomness⟩ steps).1
    store.IsValid ∧
    (∀ step, store.StepIsSafe step) ∧
    (∀ path space, (store.step (.save path space)).2 = .saved ↔ store.directory.HasRoom path ∧
      ∃ config, store.current = some config ∧ space.holds config.toBytes = true) ∧
    ∀ (surroundings : Surroundings) (path username address : String) (key : Ed25519.PublicKey),
      let outcome := surroundings.makeConfig path username address key
      let made := run ⟨surroundings.directory, none, surroundings.randomness⟩
        [.generate username address key, .save (Path.ofText path) surroundings.space]
      outcome.directory = made.1.directory ∧
      (outcome.result = .ok [] ↔ ∃ config, made.2 = [.configured config, .saved]) ∧
      (outcome.result = .aborted ↔ made.2 = [.noRandomness, .noConfig]) := by
  intro store
  have start : IsValid ⟨[], none, randomness⟩ := by
    intro config current
    contradiction
  have valid : store.IsValid := isValid_run points start
  exact ⟨valid, valid.stepIsSafe, fun _ _ => step_save_eq_saved_iff, Surroundings.makeConfig_eq⟩

/-- A configuration that was saved in a folder is loaded again after steps that write another file
of the same name, try to make a folder and another file in its place, and bring another
configuration into use. A save that can write nothing but ten bytes fails and leaves a file of ten
bytes, and the next save to the same place fails for that. -/
theorem saved_configuration_in_folder_comes_back :
    let key : Ed25519.PublicKey := ⟨.zero 32⟩
    let path : Path := ⟨["keys", "..", "keys"], some "pkg.toml", false⟩
    let other : Path := ⟨[], some "cut.toml", false⟩
    let before : List StoreStep :=
      [.makeFolder ⟨[], some "keys", false⟩, .generate "zoë" "pkg.example:80" key]
    let between : List StoreStep :=
      [.write ⟨[], some "pkg.toml", false⟩ [0xff], .load ⟨[], some "pkg.toml", false⟩,
       .generate "" "pkg.example:80" key, .generate "bob" "pkg.example:80" key,
       .makeFolder path, .save path none]
    let store := (run ⟨[], none, List.replicate 96 7⟩ before).1
    let next := (store.step (.save path none)).1
    let cut := store.step (.save other (some 10))
    (∀ step ∈ before, step.HasPoint) ∧
    (store.step (.save path none)).2 = .saved ∧
    (∀ step ∈ between, ¬ step.WritesTo path.place) ∧
    ∃ config, store.current = some config ∧ config.username = "zoë" ∧
      next.directory.entry? ["keys", "pkg.toml"] = some (.file config.toBytes 0o600) ∧
      ((next.run between).1.step (.load path)).2 = .configured config ∧
      cut.2 = .refused (.file .cutShort) ∧
      cut.1.directory.entry? ["cut.toml"] = some (.file (config.toBytes.take 10) 0o600) ∧
      (cut.1.step (.save other none)).2 = .refused (.file .alreadyExists) := by
  intro key path other before between store next cut
  have point : key.point?.isSome = true := by decide +kernel
  have points : ∀ step ∈ before, step.HasPoint := by
    simpa [before, StoreStep.HasPoint] using point
  have success : (store.step (.save path none)).2 = .saved := by decide +kernel
  have apart : ∀ step ∈ between, ¬ step.WritesTo path.place := by
    simp [between, path, StoreStep.WritesTo, Path.place, Place.step]
  have named : store.current.map Config.username = some "zoë" := by decide +kernel
  obtain ⟨-, safe, -, -⟩ := @saved_configurations_come_back (List.replicate 96 7) before points
  obtain ⟨config, saves⟩ := (safe (.save path none)).saves path none rfl success
  have username : config.username = "zoë" := by
    rw [saves.current] at named
    exact Option.some.inj named
  have room : store.directory.HasRoom other := ⟨rfl, rfl, by decide +kernel⟩
  have short : Space.holds (some 10) config.toBytes = false := by
    have lengths : store.current.all fun config => 10 < config.toBytes.length := by decide +kernel
    rw [saves.current] at lengths
    simpa [Space.holds] using lengths
  have failed : cut = (store.withFile other (some 10) config, .refused (.file .cutShort)) :=
    (safe (.save other (some 10))).cutShort other (some 10) config rfl saves.current room short
  refine ⟨points, success, apart, config, saves.current, username, saves.stored, ?_, ?_, ?_, ?_⟩
  · rw [saves.comesBack between apart]
  · rw [failed]
  · rw [failed, withFile]
    exact Directory.entry?_put _ _ _
  · decide +kernel

end Store

end RoundKey
