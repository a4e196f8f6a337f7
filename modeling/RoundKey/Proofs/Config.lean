import RoundKey.Config
import RoundKey.Proofs.Json.Record
import RoundKey.Proofs.Toml.Record

/-!
# Reading back configurations

The document of a server identity is read as that identity, in both formats, and the document of a
configuration as that configuration. The username may be any text but the empty one: whichever of
its forms it is written in, no character of it is lost, so the account it was registered for stays
within reach.
-/
namespace RoundKey

open RoundKey.Data

namespace ServerIdentity

/-- The check of an address that has been checked succeeds again. -/
theorem create_eq_ok (identity : ServerIdentity) :
    create identity.address identity.key = .ok identity := by
  unfold create
  split
  · rfl
  · next failed =>
    rw [identity.checked] at failed
    contradiction

/-- An identity is created from its own address and its own key only. -/
theorem create_eq_ok_iff {address : String} {key : Ed25519.PublicKey} {identity : ServerIdentity} :
    create address key = .ok identity ↔ identity.address = address ∧ identity.key = key := by
  constructor
  · intro created
    unfold create at created
    split at created
    · cases created
      exact ⟨rfl, rfl⟩
    · contradiction
  · rintro ⟨rfl, rfl⟩
    exact identity.create_eq_ok

/-- An identity is that of its values. -/
theorem ofValues_toValues (identity : ServerIdentity) :
    ofValues identity.toValues = .ok identity := by
  simp only [ofValues, toValues, create_eq_ok]

/-- The values of an identity are valid if its key is the bytes of a point. -/
theorem isValid_toValues {identity : ServerIdentity}
    (point : identity.key.point?.isSome = true) : identity.toValues.All Scalar.IsValid :=
  ⟨trivial, Content.isValid_publicKey.mpr point, trivial⟩

/-- No two fields of an identity share a name. -/
theorem nodup_fields : (fields.map Field.name).Nodup := by decide

/-- The fields of an identity have names that need no quotes. -/
theorem isBareName_fields : ∀ field ∈ fields, Toml.IsBareName field.name := by decide

/-- No field of an identity is a number. -/
theorem kind_fields : ∀ field ∈ fields, field.kind ≠ .word := by decide

/-- The members of the table of an identity. -/
def members (identity : ServerIdentity) : Toml.Members :=
  Toml.membersOf fields identity.toValues

/-- An identity is read from its table. -/
theorem readToml_table {identity : ServerIdentity} (point : identity.key.point?.isSome = true)
    (origin : Toml.Origin) : readToml (.table origin identity.members) = .ok identity := by
  have read : Toml.ofMembers Toml.readScalar schema.fields identity.members =
      .ok identity.toValues :=
    Toml.ofMembers_membersOf nodup_fields (isValid_toValues point)
  simp only [readToml, Toml.readRecord, read, ofValues_toValues]

/-- An identity is read back from its document in TOML. -/
theorem ofToml_toToml {identity : ServerIdentity} (point : identity.key.point?.isSome = true) :
    ofToml identity.toToml = .ok identity := by
  have document : Toml.readDocument identity.toToml = some identity.members :=
    Toml.readDocument_writeRecord isBareName_fields kind_fields nodup_fields identity.toValues
  simp only [ofToml, Toml.ofText, document, readToml_table point]

/-- An identity is read back from its document in JSON. -/
theorem ofJson_toJson {identity : ServerIdentity} (point : identity.key.point?.isSome = true) :
    ofJson identity.toJson = .ok identity := by
  apply Json.whole_of_read
  intro rest
  have read : Json.readRecord schema (identity.toJson ++ rest) =
      .ok (identity.toValues, rest) :=
    Json.readRecord_writeRecord nodup_fields (isValid_toValues point) rest
  simp only [readJson, read, ofValues_toValues]

/-- The key of an identity that is read is the bytes of a point. -/
theorem point_of_readToml {node : Toml.Node} {identity : ServerIdentity}
    (read : readToml node = .ok identity) : identity.key.point?.isSome = true := by
  unfold readToml at read
  split at read
  · contradiction
  · next values found =>
    have defaults : DefaultsHold Scalar.IsValid schema.fields := by
      simp [DefaultsHold, schema, fields]
    have reads : ∀ kind node value, Toml.readScalar kind node = .ok value → kind.IsValid value :=
      fun _ _ _ => Toml.isValid_of_readScalar
    obtain ⟨-, valid, -⟩ := Toml.all_readRecord reads defaults found
    unfold ofValues at read
    split at read
    · next created =>
      cases read
      rw [(create_eq_ok_iff.mp created).2]
      exact Content.isValid_publicKey.mp valid
    · contradiction

/-- The address of an identity is not empty, and no character of it is white space or ends the host
part of a locator. -/
theorem plain_address (identity : ServerIdentity) : identity.address ≠ "" ∧
    ∀ character ∈ identity.address.toList,
      isSeparator character = false ∧ Text.isWhiteSpace character = false := by
  have checked := identity.checked
  unfold checkAddress at checked
  split_ifs at checked with empty bad
  have some : identity.address ≠ "" := by simpa using empty
  have plain : ∀ character ∈ identity.address.toList,
      isSeparator character = false ∧ Text.isWhiteSpace character = false := by
    simpa using bad
  exact ⟨some, plain⟩

end ServerIdentity

namespace Config

/-- The values of a configuration. -/
def toValues (config : Config) : Values schema.fields :=
  (config.username, config.loginKey, config.server, ())

/-- The node of a part. -/
def partNode : (part : Part) → part.Value → Toml.Node
  | .scalar kind, value => Toml.nodeOf kind value
  | .server, identity => .table .header identity.members

/-- The members of the document of a configuration in front of its server. -/
def ownMembers (config : Config) : Toml.Members :=
  [("username", Toml.nodeOf .text config.username),
   ("login_key", Toml.nodeOf (.binary .base32 .seed) config.loginKey)]

/-- The members of the document of a configuration. -/
def members (config : Config) : Toml.Members :=
  config.ownMembers ++ [("server", .table .header config.server.members)]

/-- The members of a configuration are the nodes of its values. -/
theorem members_eq (config : Config) :
    config.members = (Values.entries schema.fields config.toValues).map fun entry =>
      (entry.name, partNode entry.kind entry.value) := rfl

/-- The document of a configuration is read line by line: its own pairs, then the section of its
server. -/
theorem reads_toToml (config : Config) :
    Toml.Reads config.toToml.toList (Toml.pairLines config.ownMembers ++
      [("server", config.server.members)].flatMap Toml.sectionLines) := by
  have usernameBare : Toml.IsBareName "username" := by decide
  have loginBare : Toml.IsBareName "login_key" := by decide
  have serverBare : Toml.IsBareName "server" := by decide
  have server : Toml.Reads (Toml.writePairs ServerIdentity.fields config.server.toValues)
      (Toml.pairLines config.server.members) := by
    have reads := Toml.reads_writePairs ServerIdentity.isBareName_fields
      ServerIdentity.kind_fields config.server.toValues .nil
    rwa [List.append_nil, List.append_nil] at reads
  have header := Toml.Reads.cons (by decide) (Toml.readLine_writeHeader serverBare _) server
  have blank := Toml.Reads.cons (by decide : ['\n'] ≠ []) (Toml.readLine_break _) header
  have login := Toml.Reads.cons (Toml.writePair_ne_nil _ _)
    (Toml.readLine_writeScalar loginBare (by decide : Scalar.binary .base32 .seed ≠ .word)
      config.loginKey _) blank
  have username := Toml.Reads.cons (Toml.writePair_ne_nil _ _)
    (Toml.readLine_writeScalar usernameBare (by decide : Scalar.text ≠ .word)
      config.username _) login
  simpa [toToml, Toml.sectionLines, Toml.pairLines, ownMembers] using username

/-- The document of a configuration is the table of its members. -/
theorem readDocument_toToml (config : Config) :
    Toml.readDocument config.toToml = some config.members := by
  have noMark : config.toToml.toList.head? ≠ some '\ufeff' := by
    rw [toToml, String.toList_ofList, List.append_assoc, List.append_assoc]
    exact Toml.head?_writePair (by decide) _ _
  have own : (config.ownMembers.map Prod.fst ++
      [("server", config.server.members)].map Prod.fst).Nodup := by
    simp [ownMembers]
  have inner : ∀ part ∈ [("server", config.server.members)], (part.2.map Prod.fst).Nodup := by
    rw [List.forall_mem_singleton, ServerIdentity.members, Toml.map_fst_membersOf]
    exact ServerIdentity.nodup_fields
  have read := Toml.readDocument_of_reads noMark config.reads_toToml own inner
  rwa [String.ofList_toList] at read

/-- The value of a part is read from its node. -/
theorem readPart_partNode {config : Config} (point : config.server.key.point?.isSome = true) :
    ∀ entry ∈ Values.entries schema.fields config.toValues,
      readPart entry.kind (partNode entry.kind entry.value) = .ok entry.value := by
  have seed : Content.seed ≠ .publicKey := by decide
  have login : Scalar.IsValid (.binary .base32 .seed) config.loginKey :=
    Content.isValid_of_ne_publicKey seed config.loginKey
  simp only [schema, Values.entries, toValues, List.forall_mem_cons]
  refine ⟨rfl, Toml.readScalar_nodeOf login, ?_, by simp⟩
  exact ServerIdentity.readToml_table point .header

/-- A configuration is read from the table of its members. -/
theorem readNode_members {config : Config} (point : config.server.key.point?.isSome = true) :
    readNode (.table .header config.members) = .ok config := by
  have read : Toml.ofMembers readPart schema.fields config.members = .ok config.toValues := by
    rw [members_eq]
    exact Toml.ofMembers_map (by decide) (readPart_partNode point)
  simp only [readNode, Toml.readRecord, read]
  rfl

/-- A configuration with a username is read back from its document. -/
theorem ofToml_toToml {config : Config} (named : config.username ≠ "")
    (point : config.server.key.point?.isSome = true) : ofToml config.toToml = .ok config := by
  have read : Toml.ofText readNode config.toToml = .ok config := by
    simp only [Toml.ofText, readDocument_toToml, readNode_members point]
  simp only [ofToml, read, check, if_neg named]

/-- A configuration that has a username, and a server that requests can be sent to and that replies
can be verified under. -/
structure IsValid (config : Config) : Prop where
  /-- There is a username. -/
  named : config.username ≠ ""
  /-- There is an address. -/
  addressed : config.server.address ≠ ""
  /-- The address is that of a host, and of nothing on it. -/
  plain : ∀ character ∈ config.server.address.toList,
    isSeparator character = false ∧ Text.isWhiteSpace character = false
  /-- The server key is the bytes of a point. -/
  point : config.server.key.point?.isSome = true

/-- A configuration that passes its check is valid if its server key is the bytes of a point, since
the address of an identity has been checked. -/
theorem isValid_of_check {config checked : Config} (passed : check config = .ok checked)
    (point : config.server.key.point?.isSome = true) : checked.IsValid := by
  unfold check at passed
  split_ifs at passed with unnamed
  cases passed
  obtain ⟨addressed, plain⟩ := config.server.plain_address
  exact ⟨unnamed, addressed, plain, point⟩

/-- A value that its part does not refuse. -/
def PartIsValid : (part : Part) → part.Value → Prop
  | .scalar kind, value => kind.IsValid value
  | .server, identity => identity.key.point?.isSome = true

/-- Only valid values are read for a part. -/
theorem partIsValid_of_readPart {part : Part} {node : Toml.Node} {value : part.Value}
    (read : readPart part node = .ok value) : PartIsValid part value := by
  cases part with
  | scalar kind => exact Toml.isValid_of_readScalar read
  | server => exact ServerIdentity.point_of_readToml read

/-- The server key of a configuration that is read is the bytes of a point. -/
theorem point_of_readNode {node : Toml.Node} {config : Config}
    (read : readNode node = .ok config) : config.server.key.point?.isSome = true := by
  unfold readNode at read
  split at read
  · contradiction
  · next values found =>
    cases read
    have defaults : DefaultsHold PartIsValid schema.fields := by simp [DefaultsHold, schema]
    have reads : ∀ part node value, readPart part node = .ok value → PartIsValid part value :=
      fun _ _ _ => partIsValid_of_readPart
    have all : Values.All PartIsValid schema.fields values :=
      Toml.all_readRecord reads defaults found
    exact all.2.2.1

/-- Every configuration that a document holds is valid. -/
theorem isValid_of_ofToml {text : String} {config : Config} (read : ofToml text = .ok config) :
    config.IsValid := by
  unfold ofToml Toml.ofText at read
  cases document : Toml.readDocument text with
  | none => simp [document] at read
  | some members =>
    cases found : readNode (.table .header members) with
    | error mismatch => simp [document, found] at read
    | ok unchecked =>
      simp only [document, found] at read
      exact isValid_of_check read (point_of_readNode found)

/-- Every configuration that the bytes of a file hold is valid. -/
theorem isValid_of_ofBytes {bytes : List UInt8} {config : Config}
    (read : ofBytes bytes = .ok config) : config.IsValid := by
  unfold ofBytes at read
  split at read
  · contradiction
  · exact isValid_of_ofToml read

/-- A valid configuration is read back from the bytes of its file. -/
theorem ofBytes_toBytes {config : Config} (valid : config.IsValid) :
    ofBytes config.toBytes = .ok config := by
  rw [ofBytes, toBytes, Text.ofUtf8?_utf8]
  exact ofToml_toToml valid.named valid.point

/-- Every configuration with a username comes back from its document as it was, with every character
of the username and every byte of the login seed, the address and the server key; and so does every
server identity, from its document in either format. The server key has to be the bytes of a point,
as public keys are that were read. -/
theorem every_document_comes_back :
    (∀ config : Config, config.username ≠ "" → config.server.key.point?.isSome = true →
      ofToml config.toToml = .ok config) ∧
    (∀ identity : ServerIdentity, identity.key.point?.isSome = true →
      ServerIdentity.ofToml identity.toToml = .ok identity ∧
      ServerIdentity.ofJson identity.toJson = .ok identity) := by
  constructor
  · intro config named point
    exact ofToml_toToml named point
  · intro identity point
    exact ⟨ServerIdentity.ofToml_toToml point, ServerIdentity.ofJson_toJson point⟩

/-- Configurations come back whose usernames are written in each of the five forms: escaped on one
line and on several, with the quotes that would close them, and literal with one quote, with three,
and on several lines, with a line break in front. -/
theorem usernames_of_every_form_come_back :
    let server : ServerIdentity := ⟨"pkg.example:80", ⟨.zero 32⟩, rfl⟩
    let named (username : String) : Config := ⟨username, ⟨.ofNat 32 7⟩, server⟩
    let comesBack (config : Config) : Prop :=
      config.username ≠ "" ∧ ofToml config.toToml = .ok config
    server.key.point?.isSome = true ∧
    comesBack (named "zoë \"\"\" \t\x00\r\x7f'''") ∧ comesBack (named "\n\"\"\"\r\n'''") ∧
    comesBack (named "\\\"\"\"") ∧ comesBack (named "''\\") ∧ comesBack (named "\n''\\\n") ∧
    ServerIdentity.ofToml server.toToml = .ok server ∧
    ServerIdentity.ofJson server.toJson = .ok server := by
  intro server named comesBack
  have point : server.key.point?.isSome = true := by decide +kernel
  obtain ⟨reads, identities⟩ := every_document_comes_back
  have back (username : String) (nonempty : username ≠ "") : comesBack (named username) :=
    ⟨nonempty, reads (named username) nonempty point⟩
  exact ⟨point, back _ (by decide), back _ (by decide), back _ (by decide), back _ (by decide),
    back _ (by decide), (identities server point).1, (identities server point).2⟩

end Config

end RoundKey
