import RoundKey.Channel
import RoundKey.CommandLine.Command
import RoundKey.Store

/-!
# The program

One command, carried out on a directory, with random bytes, over a network. A command prints lines,
or fails with a sentence that says what failed and, as its cause, why, or aborts since it cannot
draw a key. Only the command that makes a configuration changes the directory.
-/
namespace RoundKey

open CommandLine Data

/-- Where a command is carried out. -/
structure Surroundings where
  /-- The directory. -/
  directory : Directory
  /-- The random bytes. -/
  randomness : Randomness
  /-- The network. -/
  network : Network
  /-- How much can be written to a new file. -/
  space : Space

/-- Why a command failed. -/
inductive Failure where
  /-- The address names no server. -/
  | identity (fault : AddressFault)
  /-- There is no configuration to make. -/
  | generation (fault : ConfigFault)
  /-- The configuration could not be written to a file. -/
  | writing (path : String) (fault : ConfigFault)
  /-- The configuration could not be loaded from a file. -/
  | loading (path : String) (fault : ConfigFault)
  /-- A call failed. -/
  | call (made : Call) (error : ClientError)
deriving DecidableEq, Repr

/-- `run` — what failed when a call failed. -/
def Call.failureText : Call → String
  | register => "Registration failed!"
  | verify _ => "Verification failed!"
  | status => "Status check failed!"
  | extract round => "Extraction for round " ++ toString round ++ " failed!"

namespace Failure

/-- What failed. -/
def message : Failure → String
  | identity _ => "Invalid server identity!"
  | generation _ => "Failed to generate client configuration!"
  | writing path _ => "Failed to write " ++ path ++ "!"
  | loading path _ => "Failed to load " ++ path ++ "!"
  | .call made _ => made.failureText

/-- Why it failed. -/
def cause : Failure → String
  | identity fault => fault.message
  | generation fault => fault.message
  | writing _ fault => fault.message
  | loading _ fault => fault.message
  | .call _ error => error.message

end Failure

/-- What a command came to. -/
structure Outcome where
  /-- The lines that it prints, or why it failed, unless it aborted. -/
  result : Upshot Failure (List String)
  /-- The directory after it. -/
  directory : Directory

/-- `run` — the lines that a successful call prints. -/
def Success.lines (call : Call) : Success → List String
  | extracted key =>
    ["private_key = " ++ Hex.encode key.key.toBytes,
     "identity_sig = " ++ Hex.encode key.attestation.toBytes]
  | done =>
    match call with
    | .register => ["Registered."]
    | .verify _ => ["Verified."]
    | .status => ["Registered and recognized by the server."]
    | .extract _ => []

namespace Surroundings

variable (surroundings : Surroundings)

/-- Fail without a change. -/
def fail (failure : Failure) : Outcome := ⟨.error failure, surroundings.directory⟩

/-- `main` with `Command::Init` — make a configuration in a new file. It aborts if no login key can
be drawn. -/
def makeConfig (path username address : String) (key : Ed25519.PublicKey) : Outcome :=
  match ServerIdentity.create address key with
  | .error fault => surroundings.fail (.identity fault)
  | .ok server =>
    match draw? surroundings.randomness with
    | none => ⟨.aborted, surroundings.directory⟩
    | some (drawn, _) =>
      match Config.generate username server drawn with
      | .error fault => surroundings.fail (.generation fault)
      | .ok config =>
        match config.save surroundings.directory (Path.ofText path) surroundings.space with
        | (directory, .error fault) => ⟨.error (.writing path fault), directory⟩
        | (directory, .ok ()) => ⟨.ok [], directory⟩

/-- `run` — make a call with the configuration of a file. The login key takes the place of a
long-term key that is not given. -/
def makeCall (path : String) (call : Call) (longTermKey : Option Ed25519.PublicKey) : Outcome :=
  match Config.load surroundings.directory (Path.ofText path) with
  | .error fault => surroundings.fail (.loading path fault)
  | .ok config =>
    let client := Client.ofConfig config (longTermKey.getD config.loginPublicKey)
    let record := client.callOver surroundings.network call surroundings.randomness
    let result := match record.outcome.result with
      | .error error => .error (.call call error)
      | .ok success => .ok (success.lines call)
      | .aborted => .aborted
    ⟨result, surroundings.directory⟩

/-- `main` — carry out what the program is told to do. -/
def carryOut (invocation : Invocation) : Outcome :=
  match invocation.command with
  | .init username serverAddress serverKey =>
    surroundings.makeConfig invocation.config username serverAddress serverKey
  | .register => surroundings.makeCall invocation.config .register none
  | .verify token => surroundings.makeCall invocation.config (.verify token) none
  | .status => surroundings.makeCall invocation.config .status none
  | .extract round longTermKey =>
    surroundings.makeCall invocation.config (.extract round) (some longTermKey)

end Surroundings

/-- What the program came to: a command, or a fault in its arguments. -/
abbrev ProgramResult := Except UsageFault Outcome

/-- Run the program on its arguments. -/
def runProgram (arguments : List String) (surroundings : Surroundings) : ProgramResult :=
  (Invocation.ofArguments arguments).map surroundings.carryOut

/-- The code that the program ends with. -/
def exitCode : ProgramResult → Nat
  | .ok ⟨.ok _, _⟩ => 0
  | .ok ⟨.error _, _⟩ => 1
  | .ok ⟨.aborted, _⟩ => 101
  | .error .helpWanted => 0
  | .error _ => 2

/-- The text that the program prints. -/
def printed : ProgramResult → String
  | .ok ⟨.ok lines, _⟩ => String.join (lines.map fun line => line ++ "\n")
  | _ => ""

end RoundKey
