import RoundKey.CommandLine.Arguments

/-!
# Commands

What the program is told to do: one command with its values, and the file of the configuration.
The file may be named before or after the command, and the later name counts.
-/
namespace RoundKey.CommandLine

/-- `Command` — a command with its values. -/
inductive Command where
  /-- Make a configuration. -/
  | init (username serverAddress : String) (serverKey : Ed25519.PublicKey)
  /-- Register. -/
  | register
  /-- Prove ownership by a token. -/
  | verify (token : List UInt8)
  /-- Ask whether the server knows the client. -/
  | status
  /-- Obtain the key of a round. -/
  | extract (round : UInt32) (longTermKey : Ed25519.PublicKey)
deriving DecidableEq

/-- `Args` — what the program is told to do. -/
structure Invocation where
  /-- The file of the configuration. -/
  config : String
  /-- The command. -/
  command : Command
deriving DecidableEq

/-- The file of the configuration if none is named. -/
def defaultConfig : String := "client.toml"

/-- A command with the values that have been given, if it needs no others. -/
def Command.ofGiven? (given : Given) : CommandName → Option Command
  | .init => do
    let username ← given .username
    let serverAddress ← given .serverAddress
    let serverKey ← given .serverKey
    some (.init username serverAddress serverKey)
  | .register => some .register
  | .verify => do
    let token ← given .token
    some (.verify token)
  | .status => some .status
  | .extract => do
    let round ← given .round
    let longTermKey ← given .longTermKey
    some (.extract round longTermKey)

/-- The values and the command in the arguments after its name. -/
def readCommand (name : CommandName) (arguments : List String) :
    Except UsageFault (Given × Command) :=
  match Scan.start.run (.command name) arguments with
  | .error fault => .error fault
  | .ok (.command _ _ _) => .error .unknownArgument
  | .ok (.exhausted scan) =>
    match scan.settle with
    | .error fault => .error fault
    | .ok given =>
      match Command.ofGiven? given name with
      | none => .error .missingParameter
      | some command => .ok (given, command)

/-- `Args::parse` — what the arguments of the program tell it to do. -/
def Invocation.ofArguments (arguments : List String) : Except UsageFault Invocation :=
  match Scan.start.run .program arguments with
  | .error fault => .error fault
  | .ok (.exhausted scan) =>
    match scan.settle with
    | .error fault => .error fault
    | .ok given => .error (if given.any then .missingCommand else .nothingWanted)
  | .ok (.command scan name rest) =>
    match readCommand name rest with
    | .error fault => .error fault
    | .ok (later, command) =>
      match scan.settle with
      | .error fault => .error fault
      | .ok earlier =>
        .ok ⟨((later .config).or (earlier .config)).getD defaultConfig, command⟩

end RoundKey.CommandLine
