import RoundKey.Program

/-!
# The command line

Takes arguments, the file of the configuration and random bytes from the machine, runs the
program on them, and writes back what it made: a new file, printed lines, a report, an exit code.
No channel leads to a server from here, so every call fails as it does without a network.
-/
namespace RoundKey

/-- How the program is called. -/
def usage : String :=
  "Usage: [--config <CONFIG>] init | register | verify | status | extract [--<NAME> <VALUE>]"

/-- How many random bytes a command may draw. -/
def drawnBytes : Nat := 32

/-- What there is at a file name, as entries of a directory. -/
def snapshot (file : String) : IO Directory := do
  let path := Path.ofText file
  let folders := path.folders.map fun folder => (folder, Entry.folder)
  match ← (IO.FS.readBinFile file).toBaseIO with
  | .ok content =>
    return (path.place, .file content.data.toList Directory.sharedMode) :: folders
  | .error (.noFileOrDirectory _ _ _) => return folders
  | .error _ => return (path.place, .folder) :: folders

/-- Write a new file that only its owner can read, or say whether it was the opening or the writing
that failed. -/
def writeNew (file : String) (content : List UInt8) : IO (Except FileFault Unit) := do
  match ← (IO.FS.Handle.mk file .writeNew).toBaseIO with
  | .error _ => return .error .notFound
  | .ok handle =>
    let written ← EIO.toBaseIO do
      IO.setAccessRights file { user := { read := true, write := true } }
      handle.write ⟨content.toArray⟩
      handle.flush
    return written.mapError fun _ => .cutShort

/-- Say why a command failed. -/
def report (failure : Failure) : IO Unit := do
  IO.eprintln ("Error: " ++ failure.message ++ "\n\nCaused by:\n    " ++ failure.cause)

/-- Carry out an invocation on the machine. -/
def carryOut (invocation : CommandLine.Invocation) : IO ProgramResult := do
  let directory ← snapshot invocation.config
  let random ← IO.getRandomBytes (USize.ofNat drawnBytes)
  let outcome := Surroundings.carryOut ⟨directory, random.data.toList, .isolated, none⟩ invocation
  let place := (Path.ofText invocation.config).place
  match directory.entry? place, outcome.directory.entry? place with
  | none, some (.file content _) =>
    match ← writeNew invocation.config content with
    | .ok () => return .ok outcome
    | .error fault =>
      return .ok { outcome with result := .error (.writing invocation.config (.file fault)) }
  | _, _ => return .ok outcome

end RoundKey

/-- Run the program on the arguments of the command line. -/
def main (arguments : List String) : IO UInt32 := do
  let result ← match RoundKey.CommandLine.Invocation.ofArguments arguments with
    | .error fault => pure (.error fault)
    | .ok invocation => RoundKey.carryOut invocation
  match result with
  | .error .helpWanted => IO.println RoundKey.usage
  | .error fault => IO.eprintln (fault.message ++ "\n" ++ RoundKey.usage)
  | .ok outcome =>
    match outcome.result with
    | .error failure => RoundKey.report failure
    | .ok _ => IO.print (RoundKey.printed result)
    | .aborted => IO.eprintln "There are too few random bytes."
  return UInt32.ofNat (RoundKey.exitCode result)
