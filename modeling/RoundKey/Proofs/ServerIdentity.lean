import RoundKey.Proofs.Config
import RoundKey.Proofs.Json.Item
import RoundKey.Proofs.Json.Object
import RoundKey.Proofs.Json.Written

/-!
# Addresses of servers

An address is that of a host: it is not empty, and no character of it is white space or a sign that
ends the host part of a locator. Every way to obtain an identity makes the same check, and none
makes another one. So the address of an identity is the part of its locators up to the next such
sign, and they tell their address and path apart.
-/
namespace RoundKey

open RoundKey.Data

/-- An address of a host and nothing else. -/
structure IsHost (address : String) : Prop where
  /-- It is not empty. -/
  nonempty : address ≠ ""
  /-- It has no separator and no white space. -/
  plain : ∀ character ∈ address.toList, character ≠ '/' ∧ character ≠ '?' ∧ character ≠ '#' ∧
    Text.isWhiteSpace character = false

/-- A character is no separator exactly if it is none of the three. -/
theorem isSeparator_eq_false_iff {character : Char} :
    isSeparator character = false ↔ character ≠ '/' ∧ character ≠ '?' ∧ character ≠ '#' := by
  simp [isSeparator, and_assoc]

/-- The part of a locator behind its scheme and up to the next character that ends it. -/
def authority (url : String) : String :=
  String.ofList ((url.toList.drop "https://".toList.length).takeWhile fun character =>
    !isSeparator character)

namespace ServerIdentity

/-- The address of an identity is that of a host. -/
theorem isHost_address (identity : ServerIdentity) : IsHost identity.address := by
  obtain ⟨nonempty, plain⟩ := identity.plain_address
  refine ⟨nonempty, fun character inside => ?_⟩
  obtain ⟨noSeparator, noSpace⟩ := plain character inside
  obtain ⟨noSlash, noQuery, noFragment⟩ := isSeparator_eq_false_iff.mp noSeparator
  exact ⟨noSlash, noQuery, noFragment, noSpace⟩

/-- The addresses of hosts pass the check, and no others. -/
theorem checkAddress_eq_ok_iff {address : String} :
    checkAddress address = .ok () ↔ IsHost address := by
  constructor
  · exact fun checked => isHost_address ⟨address, ⟨.zero 32⟩, checked⟩
  · intro isHost
    have nonempty : address.toList ≠ [] := by simpa using isHost.nonempty
    have plain : (address.toList.any fun character =>
        isSeparator character || Text.isWhiteSpace character) = false := by
      rw [List.any_eq_false]
      intro character inside
      obtain ⟨noSlash, noQuery, noFragment, noSpace⟩ := isHost.plain character inside
      have noSeparator := isSeparator_eq_false_iff.mpr ⟨noSlash, noQuery, noFragment⟩
      simp [noSeparator, noSpace]
    simp [checkAddress, nonempty, plain]

/-- An identity is created exactly for the address of a host. -/
theorem exists_create_iff {address : String} {key : Ed25519.PublicKey} :
    (∃ identity, create address key = .ok identity) ↔ IsHost address := by
  constructor
  · rintro ⟨identity, created⟩
    rw [← (create_eq_ok_iff.mp created).1]
    exact identity.isHost_address
  · intro isHost
    exact ⟨⟨address, key, checkAddress_eq_ok_iff.mpr isHost⟩, create_eq_ok_iff.mpr ⟨rfl, rfl⟩⟩

/-- A locator is its scheme, its address, a slash and its path. -/
theorem toList_url (identity : ServerIdentity) (path : String) :
    (identity.url path).toList =
      "https://".toList ++ (identity.address.toList ++ '/' :: path.toList) := by
  simp [url]

/-- The part of a locator behind its scheme is the address of its identity. -/
theorem authority_url (identity : ServerIdentity) (path : String) :
    authority (identity.url path) = identity.address := by
  have plain : ∀ character ∈ identity.address.toList, (!isSeparator character) = true := by
    intro character inside
    rw [(identity.plain_address.2 character inside).1]
    rfl
  have stop : ('/' :: path.toList).takeWhile (fun character => !isSeparator character) = [] := rfl
  rw [authority, toList_url, List.drop_left, List.takeWhile_append_of_pos plain, stop,
    List.append_nil, String.ofList_toList]

/-- Locators are the same only of the same address and the same path. -/
theorem url_inj {first second : ServerIdentity} {path path' : String} :
    first.url path = second.url path' ↔ first.address = second.address ∧ path = path' := by
  constructor
  · intro same
    have address : first.address = second.address := by
      rw [← first.authority_url path, same, authority_url]
    have characters := congrArg String.toList same
    rw [toList_url, toList_url, address] at characters
    have paths := (List.cons.inj
      (List.append_cancel_left (List.append_cancel_left characters))).2
    exact ⟨address, String.toList_inj.mp paths⟩
  · rintro ⟨address, rfl⟩
    rw [url, url, address]

/-- The form of a key in a document. -/
def keyText (key : Ed25519.PublicKey) : String :=
  Text.ofAscii (Content.publicKey.encode .base32 key)

/-- A document that is an object with one address and one key, or the list of both. -/
inductive CarriedInJson (address : String) (key : Ed25519.PublicKey) : List UInt8 → Prop where
  /-- An object with any members of other names, in any order. -/
  | object {members : List (String × List UInt8)} {bytes : List UInt8}
    {first second : String × List UInt8} (isObject : Json.IsObject members bytes)
    (addressOnce : membersNamed "address" members = [first])
    (isAddress : Json.HoldsText first address)
    (keyOnce : membersNamed "key" members = [second])
    (isKey : Json.HoldsText second (keyText key)) : CarriedInJson address key bytes
  /-- A list. -/
  | list {first second bytes : List UInt8} (isList : Json.IsList [first, second] bytes)
    (isAddress : Json.HoldsText ("address", first) address)
    (isKey : Json.HoldsText ("key", second) (keyText key)) : CarriedInJson address key bytes

/-- Members of a table that are one address, one key, and any of other names. -/
def CarriedInTable (address : String) (key : Ed25519.PublicKey) (members : Toml.Members) : Prop :=
  membersNamed "address" members = [("address", .text address)] ∧
    membersNamed "key" members = [("key", .text (keyText key))]

/-- A node that is such a table, in either form, or the list of an address and a key. -/
inductive CarriedInNode (address : String) (key : Ed25519.PublicKey) : Toml.Node → Prop where
  /-- A table with a part of the document to itself. -/
  | table {origin : Toml.Origin} {members : Toml.Members}
    (carried : CarriedInTable address key members) :
    CarriedInNode address key (.table origin members)
  /-- A table written as a value. -/
  | inline {members : Toml.Members} (carried : CarriedInTable address key members) :
    CarriedInNode address key (.inline members)
  /-- A list, whose further items do not matter. -/
  | list {items : List Toml.Node} :
    CarriedInNode address key (.list (.text address :: .text (keyText key) :: items))

variable {address : String} {key : Ed25519.PublicKey}

/-- The values of an address and a key. -/
def valuesOf (address : String) (key : Ed25519.PublicKey) : Values schema.fields :=
  (address, key, ())

/-- The values of an address and a key are the identity that is created of them. -/
theorem ofValues_eq_ok_iff {identity : ServerIdentity} :
    ofValues (valuesOf address key) = .ok identity ↔ create address key = .ok identity := by
  simp only [ofValues, valuesOf]
  cases create address key <;> simp

/-- The key in a document is read. -/
theorem decode_keyText (point : key.point?.isSome = true) :
    Content.publicKey.decode .base32 (Text.utf8 (keyText key)) = .ok key := by
  rw [keyText, Content.utf8_ofAscii_encode]
  exact Content.decode_encode .base32 (Content.isValid_publicKey.mpr point)

/-- The values of a document that carries them are read. -/
theorem CarriedInJson.readRecord_eq_ok {bytes : List UInt8} (point : key.point?.isSome = true)
    (carried : CarriedInJson address key bytes) :
    Json.whole (Json.readRecord schema) bytes = .ok (valuesOf address key) := by
  cases carried with
  | @object members bytes first second isObject addressOnce isAddress keyOnce isKey =>
    have distinct : (schema.fields.map Field.name).Nodup := nodup_fields
    apply (Json.readRecord_eq_ok_iff distinct isObject).mpr
    refine ⟨.inl ⟨Json.plainOffer first, ?_, isAddress.taken_readString .text⟩,
      .inl ⟨Json.plainOffer second, ?_, isKey.taken_binary (decode_keyText point)⟩, trivial⟩
    · rw [offersOf_map fun _ => rfl, addressOnce]
      rfl
    · rw [offersOf_map fun _ => rfl, keyOnce]
      rfl
  | list isList isAddress isKey =>
    exact Json.readRecord_of_isList isList
      ⟨isAddress.taken_readString .text, isKey.taken_binary (decode_keyText point), trivial⟩

/-- The values of a node that carries them are read. -/
theorem CarriedInNode.readRecord_eq_ok {node : Toml.Node} (point : key.point?.isSome = true)
    (carried : CarriedInNode address key node) :
    Toml.readRecord Toml.readScalar schema node = .ok (valuesOf address key) := by
  have readsKey : Toml.readScalar (.binary .base32 .publicKey) (.text (keyText key)) = .ok key :=
    decode_keyText point
  have table {members : Toml.Members} (carried : CarriedInTable address key members) :
      Toml.ofMembers Toml.readScalar schema.fields members = .ok (valuesOf address key) := by
    have distinct : (schema.fields.map Field.name).Nodup := nodup_fields
    apply (Toml.ofMembers_eq_ok_iff Toml.readScalar distinct).mpr
    refine ⟨.inl ⟨Toml.memberOffer Toml.readScalar ("address", .text address), ?_, rfl⟩,
      .inl ⟨Toml.memberOffer Toml.readScalar ("key", .text (keyText key)), ?_, ?_⟩, trivial⟩
    · rw [offersOf_map fun _ => rfl, carried.1]
      rfl
    · rw [offersOf_map fun _ => rfl, carried.2]
      rfl
    · exact congrArg Except.toOption readsKey
  cases carried with
  | table carried => exact table carried
  | inline carried => exact table carried
  | @list items =>
    have listed : Toml.ofItems Toml.readScalar schema.name 2 fields 0
        (.text address :: .text (keyText key) :: items) = .ok (valuesOf address key) := by
      simp only [Toml.ofItems, fields, List.tail_cons, readsKey]
      rfl
    exact listed

/-- A record is accepted as an identity exactly if its values are. -/
theorem ofJson_eq_ok_iff {bytes : List UInt8} {identity : ServerIdentity} :
    ofJson bytes = .ok identity ↔
      ∃ values, Json.whole (Json.readRecord schema) bytes = .ok values ∧
        ofValues values = .ok identity := by
  unfold ofJson Json.whole readJson
  cases Json.readRecord schema bytes with
  | error fault => simp
  | ok found =>
    obtain ⟨values, rest⟩ := found
    by_cases ends : Json.skipBlank rest = [] <;> cases created : ofValues values <;>
      simp [ends, created, Json.reject]

/-- A node is accepted as an identity exactly if its values are. -/
theorem readToml_eq_ok_iff {node : Toml.Node} (point : key.point?.isSome = true)
    (carried : CarriedInNode address key node) {identity : ServerIdentity} :
    readToml node = .ok identity ↔ create address key = .ok identity := by
  rw [readToml, carried.readRecord_eq_ok point, ← ofValues_eq_ok_iff]

end ServerIdentity

namespace Config

/-- A document of a configuration, with any members of other names and in any order, that carries an
address and a key in the node of its server. -/
def CarriedIn (username : String) (loginKey : Ed25519.Seed) (address : String)
    (key : Ed25519.PublicKey) (text : String) : Prop :=
  ∃ members node, Toml.readDocument text = some members ∧
    membersNamed "username" members = [("username", .text username)] ∧
    membersNamed "login_key" members =
      [("login_key", .text (Text.ofAscii (Content.seed.encode .base32 loginKey)))] ∧
    membersNamed "server" members = [("server", node)] ∧
    ServerIdentity.CarriedInNode address key node

/-- A configuration is read from a table exactly if the members offer its values. -/
theorem readNode_eq_ok_iff {origin : Toml.Origin} {members : Toml.Members} {config : Config} :
    readNode (.table origin members) = .ok config ↔
      Values.Offered (members.map (Toml.memberOffer readPart)) schema.fields config.toValues := by
  have distinct : (schema.fields.map Field.name).Nodup := by decide
  rw [← Toml.ofMembers_eq_ok_iff readPart distinct, readNode, Toml.readRecord]
  cases Toml.ofMembers readPart schema.fields members with
  | error mismatch => simp
  | ok values =>
    simp only [Except.ok.injEq]
    constructor
    · rintro rfl
      rfl
    · rintro rfl
      rfl

/-- A document is accepted as a configuration exactly if the address and the key in it are accepted
as an identity. -/
theorem ofToml_eq_ok_iff {username : String} {loginKey : Ed25519.Seed} {address : String}
    {key : Ed25519.PublicKey} {text : String} (named : username ≠ "")
    (point : key.point?.isSome = true) (carried : CarriedIn username loginKey address key text)
    {config : Config} : ofToml text = .ok config ↔
      config.username = username ∧ config.loginKey = loginKey ∧
        ServerIdentity.create address key = .ok config.server := by
  obtain ⟨members, node, document, usernameOnce, loginOnce, serverOnce, carried⟩ := carried
  have offers (name : String) : offersOf name (members.map (Toml.memberOffer readPart)) =
      (membersNamed name members).map (Toml.memberOffer readPart) :=
    offersOf_map (fun _ => rfl) name members
  have user : Toml.readScalar .text (.text username) = .ok username := rfl
  have login : Toml.readScalar (.binary .base32 .seed)
      (.text (Text.ofAscii (Content.seed.encode .base32 loginKey))) = .ok loginKey := by
    have valid : Scalar.IsValid (.binary .base32 .seed) loginKey :=
      Content.isValid_of_ne_publicKey (by decide : Content.seed ≠ .publicKey) loginKey
    exact Toml.readScalar_nodeOf valid
  have reads (config : Config) : readNode (.table .header members) = .ok config ↔
      config.username = username ∧ config.loginKey = loginKey ∧
        ServerIdentity.create address key = .ok config.server := by
    rw [readNode_eq_ok_iff, ← ServerIdentity.readToml_eq_ok_iff point carried,
      eq_comm (b := username), eq_comm (b := loginKey)]
    simp [schema, Values.Offered, offers, usernameOnce, loginOnce, serverOnce, Toml.memberOffer,
      toValues, readPart, user, login, toOption_eq_some_iff]
  rw [← reads, ofToml, Toml.ofText, document]
  cases read : readNode (.table .header members) with
  | error mismatch => simp [read]
  | ok found =>
    have same : check found = .ok found := by
      rw [check, ((reads found).mp read).1, if_neg named]
    simp [read, same]

end Config

namespace ServerIdentity

/-- Every identity has the address of a host, whether it was created, read from a document in either
format, or part of a configuration. Identities are created for the addresses of all hosts, and of a
document that carries an address and a valid key every reader accepts what is created of them and
nothing else. A locator begins with its scheme, the part up to the next separator is the address of
its identity, and locators are the same only of the same address and the same path. -/
theorem addresses_are_hosts_on_every_route :
    ((∀ address key identity, create address key = .ok identity → IsHost identity.address) ∧
      (∀ bytes identity, ofJson bytes = .ok identity → IsHost identity.address) ∧
      (∀ text identity, ofToml text = .ok identity → IsHost identity.address) ∧
      (∀ text config, Config.ofToml text = .ok config → IsHost config.server.address)) ∧
    (∀ address key, (∃ identity, create address key = .ok identity) ↔ IsHost address) ∧
    (∀ address (key : Ed25519.PublicKey), key.point?.isSome = true →
      (∀ bytes, CarriedInJson address key bytes →
        ∀ identity, ofJson bytes = .ok identity ↔ create address key = .ok identity) ∧
      (∀ text members, Toml.readDocument text = some members → CarriedInTable address key members →
        ∀ identity, ofToml text = .ok identity ↔ create address key = .ok identity) ∧
      (∀ username loginKey text, username ≠ "" →
        Config.CarriedIn username loginKey address key text →
        ∀ config, Config.ofToml text = .ok config ↔ config.username = username ∧
          config.loginKey = loginKey ∧ create address key = .ok config.server)) ∧
    (∀ (identity : ServerIdentity) path, "https://".toList <+: (identity.url path).toList ∧
      authority (identity.url path) = identity.address) ∧
    (∀ (first second : ServerIdentity) path path', first.url path = second.url path' →
      first.address = second.address ∧ path = path') := by
  refine ⟨⟨?_, ?_, ?_, ?_⟩, fun _ _ => exists_create_iff, fun address key point => ⟨?_, ?_, ?_⟩,
    fun identity path => ⟨?_, identity.authority_url path⟩, fun _ _ _ _ => url_inj.mp⟩
  · exact fun _ _ identity _ => identity.isHost_address
  · exact fun _ identity _ => identity.isHost_address
  · exact fun _ identity _ => identity.isHost_address
  · exact fun _ config _ => config.server.isHost_address
  · intro bytes carried identity
    rw [ofJson_eq_ok_iff, ← ofValues_eq_ok_iff]
    simp only [carried.readRecord_eq_ok point, Except.ok.injEq, exists_eq_left']
  · intro text members document carried identity
    rw [ofToml, Toml.ofText, document, ← readToml_eq_ok_iff point (.table carried)]
    cases read : readToml (.table .header members) <;> simp [read]
  · exact fun _ _ _ named carried _ => Config.ofToml_eq_ok_iff named point carried
  · rw [toList_url]
    exact List.prefix_append _ _

/-- An address and a key are read from an object with a further member, from a list, from a table,
and from a configuration. An address with a path is refused in all of them, where it can be
written. -/
theorem address_read_on_every_route :
    let key : Ed25519.PublicKey := ⟨.ofNat 32 1⟩
    let object (address : String) := Json.writeMap [("key", Json.writeText (keyText key)),
      ("comment", Json.writeText "/"), ("address", Json.writeText address)]
    let list (address : String) := 0x5B :: (Json.writeText address ++
      0x2C :: (Json.writeText (keyText key) ++ [0x5D]))
    let table (address : String) := Toml.writeRecord fields (address, key, ())
    let server : ServerIdentity := ⟨"pkg.example:80", key, rfl⟩
    let config : Config := ⟨"zoë", ⟨.ofNat 32 7⟩, server⟩
    ofJson (object "pkg.example:80") = .ok server ∧ ofJson (list "pkg.example:80") = .ok server ∧
      ofToml (table "pkg.example:80") = .ok server ∧ Config.ofToml config.toToml = .ok config ∧
      (∀ identity, ofJson (object "pkg.example/x") ≠ .ok identity) ∧
      (∀ identity, ofJson (list "pkg.example/x") ≠ .ok identity) ∧
      (∀ identity, ofToml (table "pkg.example/x") ≠ .ok identity) ∧
      server.url "extract" = "https://pkg.example:80/extract" := by
  intro key object list table server config
  have point : key.point?.isSome = true := by decide +kernel
  have quoted (name text : String) : Json.HoldsText (name, Json.writeText text) text :=
    ⟨_, Json.spells_flatMap_escapeByte _, rfl⟩
  have inObject (address : String) : CarriedInJson address key (object address) := by
    refine .object (Json.isObject_writeMap ?_) rfl (quoted _ _) rfl (quoted _ _)
    simp only [List.forall_mem_cons, List.not_mem_nil, false_implies, implies_true, and_true]
    exact ⟨Json.isValue_writeBytes _, Json.isValue_writeBytes _, Json.isValue_writeBytes _⟩
  have inList (address : String) : CarriedInJson address key (list address) := by
    have last := Json.AreItems.last Json.isBlanks_nil
      (Json.isValue_writeBytes (Text.utf8 (keyText key))) Json.isBlanks_nil
    have items := Json.AreItems.more Json.isBlanks_nil
      (Json.isValue_writeBytes (Text.utf8 address)) Json.isBlanks_nil last
    refine .list ⟨[], _, [], ?_, nofun, items, nofun⟩ (quoted _ address) (quoted _ (keyText key))
    simp [list, Json.writeText]
  have inTable (address : String) : Toml.readDocument (table address) =
        some (Toml.membersOf fields (address, key, ())) ∧
      CarriedInTable address key (Toml.membersOf fields (address, key, ())) :=
    ⟨Toml.readDocument_writeRecord isBareName_fields kind_fields nodup_fields _, rfl, rfl⟩
  have carried : Config.CarriedIn "zoë" ⟨.ofNat 32 7⟩ "pkg.example:80" key config.toToml :=
    ⟨config.members, _, config.readDocument_toToml, rfl, rfl, rfl, .table (inTable _).2⟩
  obtain ⟨-, creates, accepts, -⟩ := addresses_are_hosts_on_every_route
  have created : create "pkg.example:80" key = .ok server := create_eq_ok_iff.mpr ⟨rfl, rfl⟩
  have refused (identity : ServerIdentity) : create "pkg.example/x" key ≠ .ok identity := by
    intro created
    have isHost := (creates _ _).mp ⟨identity, created⟩
    exact (isHost.plain '/' (by decide)).1 rfl
  obtain ⟨json, toml, configures⟩ := accepts "pkg.example:80" key point
  obtain ⟨json', toml', -⟩ := accepts "pkg.example/x" key point
  refine ⟨(json _ (inObject _) _).mpr created, (json _ (inList _) _).mpr created,
    (toml _ _ (inTable _).1 (inTable _).2 _).mpr created,
    (configures _ _ _ (by decide) carried config).mpr ⟨rfl, rfl, created⟩,
    fun identity read => refused identity ((json' _ (inObject _) _).mp read),
    fun identity read => refused identity ((json' _ (inList _) _).mp read),
    fun identity read => refused identity ((toml' _ _ (inTable _).1 (inTable _).2 _).mp read), ?_⟩
  decide

end ServerIdentity

end RoundKey
