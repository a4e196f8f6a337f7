import RoundKey.Randomness
import RoundKey.ServerIdentity

/-!
# Configurations

What a client keeps: a username, the seed of its login key, and its server. The long-term key is
never part of it. A configuration is written as a document with one pair for each field and a
section for the server, and reading a document ends with the check that there is a username.
-/
namespace RoundKey

open RoundKey.Data

/-- `ClientConfig` — what a client keeps. -/
structure Config where
  /-- The name of the user. -/
  username : String
  /-- The seed of the key that signs requests. -/
  loginKey : Ed25519.Seed
  /-- The server. -/
  server : ServerIdentity
deriving DecidableEq

/-- Why a file could not be used. -/
inductive FileFault where
  /-- There is nothing at the path. -/
  | notFound
  /-- There is something at the path already. -/
  | alreadyExists
  /-- The path is that of a folder. -/
  | isFolder
  /-- The path leads through something that is no folder. -/
  | notFolder
  /-- Not all could be written to the file. -/
  | cutShort
deriving DecidableEq, Repr

/-- `ConfigError` — why there is no configuration, or why it could not be saved. -/
inductive ConfigFault where
  /-- The file could not be used. -/
  | file (fault : FileFault)
  /-- The file is no text. -/
  | encoding
  /-- The text is no configuration. -/
  | parse (fault : Toml.Fault)
  /-- The username is empty. -/
  | emptyUsername
  /-- The address names no server. -/
  | address (fault : AddressFault)
deriving DecidableEq, Repr

/-- The text of a configuration fault. -/
def ConfigFault.message : ConfigFault → String
  | file _ => "Failed to access configuration file!"
  | encoding => "Configuration file uses encoding other than UTF-8!"
  | parse _ => "Failed to parse configuration!"
  | emptyUsername => "No username specified!"
  | address fault => fault.message

namespace Config

/-- A part of a configuration. -/
inductive Part where
  /-- A field without parts. -/
  | scalar (kind : Scalar)
  /-- The server. -/
  | server
deriving DecidableEq, Repr

/-- The values of a part. -/
abbrev Part.Value : Part → Type
  | scalar kind => kind.Value
  | server => ServerIdentity

/-- The value of a part from a node. -/
def readPart : (part : Part) → Toml.Node → Except Mismatch part.Value
  | .scalar kind, node => Toml.readScalar kind node
  | .server, node => ServerIdentity.readToml node

/-- The record of a configuration. -/
def schema : Schema Part.Value :=
  ⟨"ClientConfig",
    [{ name := "username", kind := .scalar .text },
     { name := "login_key", kind := .scalar (.binary .base32 .seed) },
     { name := "server", kind := .server }]⟩

/-- The configuration of a node, before its username is checked. -/
def readNode (node : Toml.Node) : Except Mismatch Config :=
  match Toml.readRecord readPart schema node with
  | .error mismatch => .error mismatch
  | .ok values => .ok ⟨values.1, values.2.1, values.2.2.1⟩

/-- `ClientConfig::check` — check that there is a username. -/
def check (config : Config) : Except ConfigFault Config :=
  if config.username = "" then .error .emptyUsername else .ok config

/-- `ClientConfig::generate` — a configuration with the login key that was drawn for it. -/
def generate (username : String) (server : ServerIdentity) (drawn : Octets 32) :
    Except ConfigFault Config :=
  check ⟨username, ⟨drawn⟩, server⟩

/-- `ClientConfig::from_toml` — the configuration that a document holds. -/
def ofToml (text : String) : Except ConfigFault Config :=
  match Toml.ofText readNode text with
  | .error fault => .error (.parse fault)
  | .ok config => check config

/-- `ClientConfig::to_toml` — the document of a configuration. -/
def toToml (config : Config) : String :=
  String.ofList <|
    Toml.writePair "username" (Toml.writeScalar .text config.username)
      ++ Toml.writePair "login_key" (Toml.writeScalar (.binary .base32 .seed) config.loginKey)
      ++ '\n' :: Toml.writeHeader "server"
      ++ Toml.writePairs ServerIdentity.fields config.server.toValues

/-- The configuration that the bytes of a file hold. -/
def ofBytes (bytes : List UInt8) : Except ConfigFault Config :=
  match Text.ofUtf8? bytes with
  | none => .error .encoding
  | some text => ofToml text

/-- The bytes of the file of a configuration. -/
def toBytes (config : Config) : List UInt8 := Text.utf8 config.toToml

/-- `ClientConfig::login_public_key` — the public key of the login key. -/
def loginPublicKey (config : Config) : Ed25519.PublicKey := config.loginKey.publicKey

/-- The text of a configuration in diagnostics, up to its keys. -/
def summary (config : Config) : String :=
  "ClientConfig \x7b username: " ++ Text.quote config.username

end Config

end RoundKey
