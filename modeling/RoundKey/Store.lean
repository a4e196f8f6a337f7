import RoundKey.Config

/-!
# Stored configurations

A directory of files and folders, and a store that works on it with one configuration at a time.
Saving makes a new file that only its owner can read, and never changes one that is there. The file
is made first and written then. How much can be written is not up to the program, so a save may fail
with a new file behind it. Any other step that fails changes neither the directory nor the
configuration.
-/
namespace RoundKey

/-- The names that lead from the top of a directory to an entry. -/
abbrev Place := List String

/-- The place that a name leads to from a place. Two dots lead back, and at the top nowhere. -/
def Place.step (place : Place) (name : String) : Place :=
  if name = ".." then place.dropLast else place ++ [name]

/-- A path as it is written: folders to pass, and what is meant in the last of them. -/
structure Path where
  /-- The names of the folders that are passed. -/
  way : List String
  /-- The name of an entry, or none for the last folder itself. -/
  name : Option String
  /-- Whether a slash ends the name. An empty path has one after the top. -/
  slash : Bool
deriving DecidableEq, Repr

namespace Path

/-- The path of a text. Slashes may be repeated. A single dot leads nowhere, and a path that ends
in dots means a folder. -/
def ofText (text : String) : Path :=
  let parts := text.splitOn "/"
  let names := parts.filter (· ≠ "")
  let steps := names.filter (· ≠ ".")
  match names.getLast? with
  | none => ⟨[], none, text = ""⟩
  | some last =>
    if last = "." ∨ last = ".." then ⟨steps, none, false⟩
    else ⟨steps.dropLast, some last, parts.getLast? = some ""⟩

/-- The place that a path leads to, where every name on the way is that of a folder. -/
def place (path : Path) : Place := (path.way ++ path.name.toList).foldl Place.step []

/-- The places of the folders that are passed. -/
def folders (path : Path) : List Place :=
  (List.range path.way.length).map fun count => (path.way.take (count + 1)).foldl Place.step []

end Path

/-- Something in a directory. -/
inductive Entry where
  /-- A file with its permissions, as three octal digits in one number. -/
  | file (content : List UInt8) (mode : Nat)
  /-- A folder. -/
  | folder
deriving DecidableEq, Repr

/-- How many bytes can be written to a new file, if there is a limit. -/
abbrev Space := Option Nat

namespace Space

/-- Whether all of a content can be written. -/
def holds (space : Space) (content : List UInt8) : Bool := space.all (content.length ≤ ·)

/-- As much from the front of a content as can be written. -/
def cut (space : Space) (content : List UInt8) : List UInt8 :=
  match space with
  | none => content
  | some count => content.take count

end Space

/-- The entries of a directory, by place. -/
abbrev Directory := List (Place × Entry)

namespace Directory

/-- The permissions of a file that everyone may read. -/
def sharedMode : Nat := 0o644

/-- The permissions of a file that only its owner may read. -/
def ownerMode : Nat := 0o600

/-- The entry at a place. -/
def entry? (directory : Directory) (place : Place) : Option Entry :=
  match directory with
  | [] => none
  | (key, entry) :: rest => if key = place then some entry else entry? rest place

/-- Put an entry at a place, instead of one that is there. -/
def put (directory : Directory) (place : Place) (entry : Entry) : Directory :=
  (place, entry) :: directory.filter fun stored => stored.1 ≠ place

/-- The place that is reached from a place by passing folders. -/
def pass (directory : Directory) (place : Place) : List String → Except FileFault Place
  | [] => .ok place
  | name :: names =>
    let next := place.step name
    if name = ".." then directory.pass next names
    else
      match directory.entry? next with
      | none => .error .notFound
      | some (.file _ _) => .error .notFolder
      | some .folder => directory.pass next names

/-- The place of the entry that a path names, or none if it means a folder that it passes. -/
def locate (directory : Directory) (path : Path) : Except FileFault (Option Place) :=
  match directory.pass [] path.way with
  | .error fault => .error fault
  | .ok folder => .ok (path.name.map fun name => folder.step name)

/-- The content and the permissions of the file at a path. A slash asks for a folder. -/
def read (directory : Directory) (path : Path) : Except FileFault (List UInt8 × Nat) :=
  match directory.locate path with
  | .error fault => .error fault
  | .ok none => .error .isFolder
  | .ok (some place) =>
    match directory.entry? place with
    | none => .error .notFound
    | some .folder => .error .isFolder
    | some (.file content mode) => if path.slash then .error .notFolder else .ok (content, mode)

/-- Make an entry where there is none. -/
def create (directory : Directory) (path : Path) (entry : Entry) :
    Except FileFault Directory :=
  match directory.locate path with
  | .error fault => .error fault
  | .ok none => .error .alreadyExists
  | .ok (some place) =>
    match directory.entry? place with
    | some _ => .error .alreadyExists
    | none => .ok (directory.put place entry)

/-- Make a folder where there is nothing. -/
def createFolder (directory : Directory) (path : Path) : Except FileFault Directory :=
  directory.create path .folder

/-- `OpenOptions::open` with `create_new` — make an empty file where there is nothing. No file is
made under a name that a slash ends. -/
def createFile (directory : Directory) (path : Path) (mode : Nat) : Except FileFault Directory :=
  if path.slash then
    match directory.locate path with
    | .error fault => .error fault
    | .ok _ => .error .isFolder
  else directory.create path (.file [] mode)

/-- `Write::write_all` — write to the empty file at a place, which has just been made. Of what does
not fit, the front is written. -/
def fill (directory : Directory) (place : Place) (content : List UInt8) (mode : Nat)
    (space : Space) : Directory × Except FileFault Unit :=
  (directory.put place (.file (space.cut content) mode),
    if space.holds content then .ok () else .error .cutShort)

/-- Write a file that everyone may read, in place of one that is there. -/
def write (directory : Directory) (path : Path) (content : List UInt8) :
    Except FileFault Directory :=
  match directory.locate path with
  | .error fault => .error fault
  | .ok none => .error .isFolder
  | .ok (some place) =>
    if path.slash then .error .isFolder
    else
      match directory.entry? place with
      | some .folder => .error .isFolder
      | _ => .ok (directory.put place (.file content sharedMode))

/-- The directory of some files that everyone may read, with the folders that they are in. -/
def ofFiles : List (Path × List UInt8) → Directory
  | [] => []
  | (path, content) :: files =>
    path.folders.foldl (fun directory folder => directory.put folder .folder)
      ((ofFiles files).put path.place (.file content sharedMode))

end Directory

namespace Config

/-- `ClientConfig::load` — the configuration in the file at a path. -/
def load (directory : Directory) (path : Path) : Except ConfigFault Config :=
  match directory.read path with
  | .error fault => .error (.file fault)
  | .ok (content, _) => ofBytes content

/-- `ClientConfig::save` — save a configuration in a new file at a path: the directory after it, and
whether it succeeded. -/
def save (config : Config) (directory : Directory) (path : Path) (space : Space) :
    Directory × Except ConfigFault Unit :=
  match directory.createFile path Directory.ownerMode with
  | .error fault => (directory, .error (.file fault))
  | .ok opened =>
    -- From here on there is a new file, whatever becomes of the writing.
    let (written, result) := opened.fill path.place config.toBytes Directory.ownerMode space
    (written, result.mapError .file)

/-- A configuration with a fresh login key for a server at an address: `ServerIdentity::new`, then
`ClientConfig::generate`. The address is checked before the key is drawn, and the username after.
Nothing comes of it without enough random bytes. -/
def generateFor? (username address : String) (key : Ed25519.PublicKey)
    (randomness : Randomness) : Option (Except ConfigFault Config × Randomness) :=
  match ServerIdentity.create address key with
  | .error fault => some (.error (.address fault), randomness)
  | .ok server =>
    (draw? randomness).map fun (drawn, rest) => (generate username server drawn, rest)

end Config

/-- A directory, the configuration in use, and unused random bytes. -/
structure Store where
  /-- The directory. -/
  directory : Directory
  /-- The configuration in use. -/
  current : Option Config
  /-- The random bytes. -/
  randomness : Randomness

/-- Something done with a store. -/
inductive StoreStep where
  /-- Write a file. -/
  | write (path : Path) (content : List UInt8)
  /-- Make a folder. -/
  | makeFolder (path : Path)
  /-- Look at a file. -/
  | read (path : Path)
  /-- Use the configuration of a file. -/
  | load (path : Path)
  /-- Use the configuration of a text. -/
  | parse (text : String)
  /-- Use a configuration with a fresh login key. -/
  | generate (username address : String) (key : Ed25519.PublicKey)
  /-- Save the configuration in use in a new file, to which so much can be written. -/
  | save (path : Path) (space : Space)
deriving DecidableEq

/-- What a step came to. -/
inductive StoreResult where
  /-- A file has been written. -/
  | written
  /-- A folder has been made. -/
  | made
  /-- The content and the permissions of a file. -/
  | content (bytes : List UInt8) (mode : Nat)
  /-- The configuration is in use. -/
  | configured (config : Config)
  /-- The configuration has been saved. -/
  | saved
  /-- A file could not be used. -/
  | unusable (fault : FileFault)
  /-- There is no configuration to use, or it could not be saved. -/
  | refused (fault : ConfigFault)
  /-- There is no configuration to save. -/
  | noConfig
  /-- The step aborts, since there are too few random bytes. -/
  | noRandomness
deriving DecidableEq

namespace Store

/-- Change the directory, if that went well. -/
def withDirectory (store : Store) (result : StoreResult) :
    Except FileFault Directory → Store × StoreResult
  | .error fault => (store, .unusable fault)
  | .ok directory => ({ store with directory }, result)

/-- Use a configuration, if there is one. -/
def withConfig (store : Store) : Except ConfigFault Config → Store × StoreResult
  | .error fault => (store, .refused fault)
  | .ok config => ({ store with current := some config }, .configured config)

/-- Do one step. -/
def step (store : Store) : StoreStep → Store × StoreResult
  | .write path content => store.withDirectory .written (store.directory.write path content)
  | .makeFolder path => store.withDirectory .made (store.directory.createFolder path)
  | .read path =>
    match store.directory.read path with
    | .error fault => (store, .unusable fault)
    | .ok (bytes, mode) => (store, .content bytes mode)
  | .load path => store.withConfig (Config.load store.directory path)
  | .parse text => store.withConfig (Config.ofToml text)
  | .generate username address key =>
    match Config.generateFor? username address key store.randomness with
    | none => (store, .noRandomness)
    | some (config, randomness) => { store with randomness }.withConfig config
  | .save path space =>
    match store.current with
    | none => (store, .noConfig)
    | some config =>
      match config.save store.directory path space with
      | (directory, .error fault) => ({ store with directory }, .refused fault)
      | (directory, .ok ()) => ({ store with directory }, .saved)

/-- Do steps one after another. -/
def run (store : Store) : List StoreStep → Store × List StoreResult
  | [] => (store, [])
  | first :: steps =>
    let (store, result) := store.step first
    let (store, results) := store.run steps
    (store, result :: results)

end Store

end RoundKey
