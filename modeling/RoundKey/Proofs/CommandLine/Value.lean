import Mathlib.Data.List.DropRight
import RoundKey.Proofs.Data.Content
import RoundKey.Proofs.ServerIdentity
import RoundKey.Proofs.Store

/-!
# Keys and tokens on the command line

The command line and a document take the same texts for keys and tokens, but for the signs of
padding that may end a text on the command line. Both go their own way from bytes to points, and
both accept exactly the one text that the bytes of a point are written as. So the text of a key that
is put into a new configuration is the one that was typed, less its padding.
-/
namespace RoundKey.CommandLine

open RoundKey.Data

/-- A text with signs of padding behind it. -/
def padded (text : String) (count : Nat) : String :=
  text ++ String.ofList (List.replicate count '=')

/-- A text is a body that does not end in a sign of padding, and padding behind it. -/
def IsPadded (text body : String) : Prop :=
  body.toList.getLast? ≠ some '=' ∧ ∃ count, text = padded body count

variable {text text' body : String} {key : Ed25519.PublicKey} {token raw : List UInt8}
  {fault : ValueFault}

/-- Padding behind a text is taken away with the padding at its end. -/
theorem withoutPadding_padded (text : String) (count : Nat) :
    withoutPadding (padded text count) = withoutPadding text := by
  induction count with
  | zero => simp [padded]
  | succ count ih =>
    have longer : (padded text (count + 1)).toList = (padded text count).toList ++ ['='] := by
      simp [padded, List.replicate_succ']
    rw [← ih, withoutPadding, withoutPadding, longer, List.reverse_append]
    rfl

/-- A text that does not end in a sign of padding loses nothing. -/
theorem withoutPadding_of_getLast?_ne (noSign : body.toList.getLast? ≠ some '=') :
    withoutPadding body = body := by
  have last : ∀ nonempty : body.toList ≠ [],
      ¬decide (body.toList.getLast nonempty = '=') = true := by
    intro nonempty isSign
    rw [List.getLast?_eq_some_getLast nonempty, of_decide_eq_true isSign] at noSign
    exact noSign rfl
  have same : body.toList.rdropWhile (· = '=') = body.toList := List.rdropWhile_eq_self_iff.mpr last
  rw [withoutPadding, ← List.rdropWhile, same, String.ofList_toList]

/-- What is left of a text without its padding is the one body of it. -/
theorem withoutPadding_eq_iff : withoutPadding text = body ↔ IsPadded text body := by
  constructor
  · rintro rfl
    have left : (withoutPadding text).toList = text.toList.rdropWhile (· = '=') :=
      String.toList_ofList
    constructor
    · intro last
      rw [left] at last
      obtain ⟨front, ends⟩ := List.getLast?_eq_some_iff.mp last
      have kept : text.toList.rdropWhile (· = '=') ≠ [] := by simp [ends]
      have other := List.rdropWhile_last_not (· = '=') text.toList kept
      simp [ends] at other
    · let signs := text.toList.rtakeWhile (· = '=')
      have all : signs = List.replicate signs.length '=' := by
        refine List.eq_replicate_iff.mpr ⟨rfl, fun sign inside => ?_⟩
        simpa using List.mem_rtakeWhile_imp inside
      refine ⟨signs.length, ?_⟩
      rw [padded, ← all, ← String.toList_inj, String.toList_append, String.toList_ofList, left]
      exact List.rdropWhile_append_rtakeWhile.symm
  · rintro ⟨noSign, count, rfl⟩
    rw [withoutPadding_padded, withoutPadding_of_getLast?_ne noSign]

/-- A text is read as bytes exactly if it is the text of these bytes, less its padding. -/
theorem readBase32_eq_ok_iff :
    readBase32 text = .ok raw ↔ Text.utf8 (withoutPadding text) = Text.Base32.encode raw := by
  rw [← Text.Base32.decode_eq_ok_iff, readBase32]
  cases Text.Base32.decode (Text.utf8 (withoutPadding text)) <;> simp

/-- A text is refused exactly if it is the text of no bytes, and there is one fault for that. -/
theorem readBase32_eq_error_iff :
    readBase32 text = .error fault ↔ fault = .notBase32 ∧
      ∀ raw, Text.utf8 (withoutPadding text) ≠ Text.Base32.encode raw := by
  simp only [ne_eq, ← readBase32_eq_ok_iff]
  unfold readBase32
  cases Text.Base32.decode (Text.utf8 (withoutPadding text)) <;> simp [eq_comm]

/-- Why a text without padding is no key. It is the text of no bytes; else it is that of too few or
too many; else these bytes are not those of a point. -/
inductive RefusesKey (body : String) : ValueFault → Prop where
  /-- It is no base32. -/
  | notBase32 (unwritten : ∀ raw, Text.utf8 body ≠ Text.Base32.encode raw) :
    RefusesKey body .notBase32
  /-- It has another length. -/
  | keyLength {raw : List UInt8} (written : Text.utf8 body = Text.Base32.encode raw)
    (other : raw.length ≠ 32) : RefusesKey body .keyLength
  /-- It stands for no point. -/
  | notPoint {octets : Octets 32} (written : Text.utf8 body = Text.Base32.encode octets.toList)
    (off : Edwards.Point.decompress? octets = none) : RefusesKey body .notPoint

/-- A text is that of a key: it is what the bytes of the key are written as, and they are those of a
point. -/
structure NamesKey (body : String) (key : Ed25519.PublicKey) : Prop where
  /-- It is the text of these bytes. -/
  written : Text.utf8 body = Text.Base32.encode key.octets.toList
  /-- They are those of a point. -/
  point : key.point?.isSome = true

/-- Every text names a key or is refused. -/
theorem namesKey_or_refusesKey (body : String) :
    (∃ key, NamesKey body key) ∨ ∃ fault, RefusesKey body fault := by
  by_cases written : ∃ raw, Text.utf8 body = Text.Base32.encode raw
  case neg => exact .inr ⟨_, .notBase32 fun raw same => written ⟨raw, same⟩⟩
  obtain ⟨raw, written⟩ := written
  by_cases whole : raw.length = 32
  case neg => exact .inr ⟨_, .keyLength written whole⟩
  let key : Ed25519.PublicKey := ⟨⟨raw, whole⟩⟩
  have written : Text.utf8 body = Text.Base32.encode key.octets.toList := written
  cases point : key.point? with
  | none => exact .inr ⟨_, .notPoint written point⟩
  | some found => exact .inl ⟨key, written, by rw [point, Option.isSome_some]⟩

/-- A key is read from a text that names it behind its padding. -/
theorem NamesKey.readPublicKey_eq (names : NamesKey (withoutPadding text) key) :
    readPublicKey text = .ok key := by
  have whole : Octets.ofList? 32 key.octets.toList = some key.octets :=
    Octets.ofList?_eq_some_iff.mpr rfl
  simp only [readPublicKey, readBase32_eq_ok_iff.mpr names.written, whole, names.point, if_true]

/-- A text that is refused is refused for that fault. -/
theorem RefusesKey.readPublicKey_eq (refuses : RefusesKey (withoutPadding text) fault) :
    readPublicKey text = .error fault := by
  cases refuses with
  | notBase32 unwritten =>
    have failed : readBase32 text = .error .notBase32 :=
      readBase32_eq_error_iff.mpr ⟨rfl, unwritten⟩
    rw [readPublicKey, failed]
  | @keyLength raw written other =>
    have none : Octets.ofList? 32 raw = none := dif_neg other
    simp only [readPublicKey, readBase32_eq_ok_iff.mpr written, none]
  | @notPoint octets written off =>
    have whole : Octets.ofList? 32 octets.toList = some octets :=
      Octets.ofList?_eq_some_iff.mpr rfl
    have noPoint : (⟨octets⟩ : Ed25519.PublicKey).point? = none := off
    simp [readPublicKey, readBase32_eq_ok_iff.mpr written, whole, noPoint]

/-- A text is read as a key exactly if it names the key, less its padding. -/
theorem readPublicKey_eq_ok_iff :
    readPublicKey text = .ok key ↔ NamesKey (withoutPadding text) key := by
  constructor
  · intro read
    rcases namesKey_or_refusesKey (withoutPadding text) with ⟨other, names⟩ | ⟨fault, refuses⟩
    · rw [names.readPublicKey_eq] at read
      cases read
      exact names
    · rw [refuses.readPublicKey_eq] at read
      contradiction
  · exact NamesKey.readPublicKey_eq

/-- A text is refused exactly for the first fault that it has, less its padding. -/
theorem readPublicKey_eq_error_iff :
    readPublicKey text = .error fault ↔ RefusesKey (withoutPadding text) fault := by
  constructor
  · intro refused
    rcases namesKey_or_refusesKey (withoutPadding text) with ⟨key, names⟩ | ⟨other, refuses⟩
    · rw [names.readPublicKey_eq] at refused
      contradiction
    · rw [refuses.readPublicKey_eq] at refused
      cases refused
      exact refuses
  · exact RefusesKey.readPublicKey_eq

/-- A document reads a text as a key exactly if it names the key. -/
theorem readScalar_publicKey_eq_ok_iff :
    Toml.readScalar (.binary .base32 .publicKey) (.text body) = .ok key ↔ NamesKey body key := by
  have admits : Content.publicKey.Admits key.octets.toList ↔ key.point?.isSome = true := by
    constructor
    · rintro ⟨octets, same, isPoint⟩
      rwa [Octets.toList_inj.mp same] at isPoint
    · exact fun point => ⟨key.octets, rfl, point⟩
  have read : Toml.readScalar (.binary .base32 .publicKey) (.text body) = .ok key ↔
      Content.publicKey.Admits key.octets.toList ∧
        Text.utf8 body = Text.Base32.encode key.octets.toList := Content.decode_base32_eq_ok_iff
  rw [read, admits]
  exact ⟨fun both => ⟨both.2, both.1⟩, fun names => ⟨names.point, names.written⟩⟩

/-- A document reads a text as a token exactly if it is the text of its bytes. -/
theorem readScalar_bytes_eq_ok_iff :
    Toml.readScalar (.binary .base32 .bytes) (.text body) = .ok token ↔
      Text.utf8 body = Text.Base32.encode token := by
  have read : Toml.readScalar (.binary .base32 .bytes) (.text body) = .ok token ↔
      True ∧ Text.utf8 body = Text.Base32.encode token := Content.decode_base32_eq_ok_iff
  rw [read, true_and]

/-- The text of a key in a document names the key. -/
theorem namesKey_keyText (point : key.point?.isSome = true) :
    NamesKey (ServerIdentity.keyText key) key :=
  readScalar_publicKey_eq_ok_iff.mp (ServerIdentity.decode_keyText point)

/-- Two texts differ in the padding behind them, if at all. -/
def DifferInPadding (first second : String) : Prop :=
  ∃ body, IsPadded first body ∧ IsPadded second body

/-- Texts differ in padding alone exactly if the same is left of them without it. -/
theorem differInPadding_iff :
    DifferInPadding text text' ↔ withoutPadding text = withoutPadding text' := by
  constructor
  · intro differ
    obtain ⟨body, first, second⟩ := differ
    rw [withoutPadding_eq_iff.mpr first, withoutPadding_eq_iff.mpr second]
  · intro same
    exact ⟨withoutPadding text, withoutPadding_eq_iff.mp rfl, withoutPadding_eq_iff.mp same.symm⟩

/-- The texts that are written as the same bytes differ in padding alone. -/
theorem utf8_eq_iff (written : Text.utf8 (withoutPadding text) = raw) :
    Text.utf8 (withoutPadding text') = raw ↔ DifferInPadding text text' := by
  rw [← written, Text.utf8_inj, differInPadding_iff, eq_comm]

/-- Once a text is read as a token, exactly those texts are read as the same token that differ from
it in padding alone. -/
theorem readToken_eq_ok_iff_differInPadding (read : readToken text = .ok token) :
    readToken text' = .ok token ↔ DifferInPadding text text' := by
  have written := readBase32_eq_ok_iff.mp read
  rw [readToken, readBase32_eq_ok_iff, utf8_eq_iff written]

/-- Once a text is read as a key, exactly those texts are read as the same key that differ from it
in padding alone. -/
theorem readPublicKey_eq_ok_iff_differInPadding (read : readPublicKey text = .ok key) :
    readPublicKey text' = .ok key ↔ DifferInPadding text text' := by
  have names := readPublicKey_eq_ok_iff.mp read
  rw [readPublicKey_eq_ok_iff, ← utf8_eq_iff names.written]
  constructor
  · exact fun others => others.written
  · exact fun written => ⟨written, names.point⟩

/-- A key that is named is named by its text in a document. -/
theorem NamesKey.eq_keyText (names : NamesKey body key) : body = ServerIdentity.keyText key := by
  have written : Text.utf8 (ServerIdentity.keyText key) = Text.Base32.encode key.octets.toList :=
    (namesKey_keyText names.point).written
  exact Text.utf8_inj.mp (names.written.trans written.symm)

end RoundKey.CommandLine

namespace RoundKey

open CommandLine

/-- The file at a place holds a document that gives the key of the server in these characters. -/
def Directory.HoldsServerKey (directory : Directory) (place : Place) (written : String) : Prop :=
  ∃ document members server,
    directory.entry? place = some (.file (Text.utf8 document) Directory.ownerMode) ∧
    Toml.readDocument document = some members ∧
    Data.membersNamed "server" members = [("server", .table .header server)] ∧
    Data.membersNamed "key" server = [("key", .text written)]

/-- The file of a configuration gives the key of its server in one text. -/
theorem Directory.holdsServerKey_iff {directory : Directory} {place : Place} {config : Config}
    (stored : directory.entry? place = some (.file config.toBytes Directory.ownerMode))
    {written : String} :
    directory.HoldsServerKey place written ↔
      written = ServerIdentity.keyText config.server.key := by
  constructor
  · intro holds
    obtain ⟨document, members, server, stored', read, isServer, isKey⟩ := holds
    have bytes : Text.utf8 document = config.toBytes :=
      (Entry.file.inj (Option.some.inj (stored'.symm.trans stored))).1
    have same : document = config.toToml := Text.utf8_inj.mp bytes
    rw [same, Config.readDocument_toToml] at read
    cases read
    cases isServer
    cases isKey
    rfl
  · intro same
    rw [same]
    exact ⟨config.toToml, config.members, _, stored, config.readDocument_toToml, rfl, rfl⟩

/-- A configuration that was made is in its file, with the key that was given. -/
theorem Surroundings.stored_of_makeConfig {surroundings : Surroundings}
    {path username address : String} {key : Ed25519.PublicKey} {lines : List String}
    (made : (surroundings.makeConfig path username address key).result = .ok lines) :
    ∃ config : Config, config.server.key = key ∧
      (surroundings.makeConfig path username address key).directory.entry?
        (Path.ofText path).place = some (.file config.toBytes Directory.ownerMode) := by
  unfold makeConfig at made ⊢
  split at made
  · contradiction
  · next server created =>
    split at made
    · contradiction
    · next drawn rest draws =>
      split at made
      · contradiction
      · next config generated =>
        split at made
        · contradiction
        · next directory saved =>
          have isServer : config.server = server := by
            unfold Config.generate Config.check at generated
            split_ifs at generated
            cases generated
            rfl
          have isKey : server.key = key := (ServerIdentity.create_eq_ok_iff.mp created).2
          have after := (Config.save_eq_ok_iff.mp saved).2.2
          refine ⟨config, by rw [isServer, isKey], ?_⟩
          show directory.entry? (Path.ofText path).place = _
          rw [after]
          exact Directory.entry?_put _ _ _

/-- The command line reads keys and tokens as documents do. A text is a body, which does not end in
a sign of padding, and padding. It is read as a key or a token exactly if a document reads its body
as the same one, so the texts of one key or token are those that differ in padding alone. Else it is
refused for the first fault that it has: it is no base32, its bytes are not 32, or they are those of
no point. The file of a configuration that is made with a key gives the key in the body of the text
that it was typed as, and this body is read as the same key with any padding. -/
theorem CommandLine.keys_and_tokens_read_as_in_documents :
    (∀ text, ∃! body, IsPadded text body) ∧
    (∀ text body, IsPadded text body →
      (∀ key, readPublicKey text = .ok key ↔
        Toml.readScalar (.binary .base32 .publicKey) (.text body) = .ok key) ∧
      (∀ token, readToken text = .ok token ↔
        Toml.readScalar (.binary .base32 .bytes) (.text body) = .ok token) ∧
      (∀ fault, readPublicKey text = .error fault ↔ RefusesKey body fault) ∧
      (∀ fault, readToken text = .error fault ↔
        fault = .notBase32 ∧ ∀ raw, Text.utf8 body ≠ Text.Base32.encode raw)) ∧
    (∀ text key, readPublicKey text = .ok key → ∀ text',
      readPublicKey text' = .ok key ↔ DifferInPadding text text') ∧
    (∀ text token, readToken text = .ok token → ∀ text',
      readToken text' = .ok token ↔ DifferInPadding text text') ∧
    (∀ text body key, IsPadded text body → readPublicKey text = .ok key →
      ∀ (surroundings : Surroundings) (path username address : String) (lines : List String),
        let outcome := surroundings.carryOut ⟨path, .init username address key⟩
        outcome.result = .ok lines →
          (∀ written, outcome.directory.HoldsServerKey (Path.ofText path).place written ↔
            written = body) ∧
          ∀ count, readPublicKey (padded body count) = .ok key) := by
  refine ⟨?_, ?_, ?_, ?_, ?_⟩
  · intro text
    refine ⟨withoutPadding text, withoutPadding_eq_iff.mp rfl, fun body isPadded => ?_⟩
    exact (withoutPadding_eq_iff.mpr isPadded).symm
  · intro text body isPadded
    have left : withoutPadding text = body := withoutPadding_eq_iff.mpr isPadded
    refine ⟨fun key => ?_, fun token => ?_, fun fault => ?_, fun fault => ?_⟩
    · rw [readPublicKey_eq_ok_iff, readScalar_publicKey_eq_ok_iff, left]
    · rw [readToken, readBase32_eq_ok_iff, readScalar_bytes_eq_ok_iff, left]
    · rw [readPublicKey_eq_error_iff, left]
    · rw [readToken, readBase32_eq_error_iff, left]
  · exact fun text key read text' => readPublicKey_eq_ok_iff_differInPadding read
  · exact fun text token read text' => readToken_eq_ok_iff_differInPadding read
  · intro text body key isPadded read surroundings path username address lines outcome succeeded
    have left : withoutPadding text = body := withoutPadding_eq_iff.mpr isPadded
    have names : NamesKey body key := left ▸ readPublicKey_eq_ok_iff.mp read
    obtain ⟨config, isKey, stored⟩ := Surroundings.stored_of_makeConfig succeeded
    constructor
    · intro written
      have holds : outcome.directory.HoldsServerKey (Path.ofText path).place written ↔
          written = ServerIdentity.keyText config.server.key := Directory.holdsServerKey_iff stored
      rw [holds, isKey, ← names.eq_keyText]
    · intro count
      have same : withoutPadding (padded body count) = body := by
        rw [withoutPadding_padded, withoutPadding_of_getLast?_ne isPadded.1]
      rw [readPublicKey_eq_ok_iff, same]
      exact names

/-- A key is typed with padding and written into a new configuration without it. Four bytes are no
key, and nothing is read from a text with a sign of padding inside. -/
theorem CommandLine.padded_key_is_configured :
    let key : Ed25519.PublicKey := ⟨.ofNat 32 1⟩
    let written := ServerIdentity.keyText key
    let surroundings : Surroundings := ⟨[], (Octets.zero 32).toList, .isolated, none⟩
    let outcome := surroundings.carryOut ⟨"k", .init "zoë" "pkg.example:80" key⟩
    readPublicKey (padded written 4) = .ok key ∧ outcome.result = .ok [] ∧
      outcome.directory.HoldsServerKey (Path.ofText "k").place written ∧
      readPublicKey (padded written 9) = .ok key ∧
      (∀ text', readPublicKey text' = .ok key ↔ DifferInPadding (padded written 4) text') ∧
      readToken "AEAQCAI=" = .ok [1, 1, 1, 1] ∧ readPublicKey "AEAQCAI=" = .error .keyLength ∧
      readToken "AEAQ=CAI" = .error .notBase32 := by
  intro key written surroundings outcome
  obtain ⟨-, reads, keys, -, configures⟩ := keys_and_tokens_read_as_in_documents
  have point : key.point?.isSome = true := by decide +kernel
  have isPadded : IsPadded (padded written 4) written := ⟨by decide +kernel, 4, rfl⟩
  have read : readPublicKey (padded written 4) = .ok key :=
    ((reads _ _ isPadded).1 key).mpr (ServerIdentity.decode_keyText point)
  have single : "k".splitOn "/" = ["k"] := by
    rw [String.splitOn, if_neg (by decide), String.splitOnAux, if_neg (by decide +kernel),
      if_neg (by decide +kernel), String.splitOnAux, if_pos (by decide +kernel)]
    decide +kernel
  have path : Path.ofText "k" = ⟨[], some "k", false⟩ := by
    rw [Path.ofText, single]
    decide +kernel
  have made : outcome.result = .ok [] := by
    show (surroundings.makeConfig "k" "zoë" "pkg.example:80" key).result = .ok []
    rw [Surroundings.makeConfig, path]
    decide +kernel
  obtain ⟨holds, again⟩ :=
    configures _ _ _ isPadded read surroundings "k" "zoë" "pkg.example:80" [] made
  have short : IsPadded "AEAQCAI=" "AEAQCAI" := ⟨by decide, 1, by decide⟩
  have inside : IsPadded "AEAQ=CAI" "AEAQ=CAI" := ⟨by decide, 0, by decide⟩
  obtain ⟨-, tokens, refusals, -⟩ := reads _ _ short
  have fourBytes : Text.utf8 "AEAQCAI" = Text.Base32.encode [1, 1, 1, 1] := by decide
  refine ⟨read, made, (holds written).mpr rfl, again 9, keys _ _ read, ?_, ?_, ?_⟩
  · exact (tokens _).mpr (readScalar_bytes_eq_ok_iff.mpr fourBytes)
  · exact (refusals _).mpr (.keyLength fourBytes (by decide))
  · refine ((reads _ _ inside).2.2.2 _).mpr ⟨rfl, fun raw same => ?_⟩
    have refused : ¬(Text.Base32.decode (Text.utf8 "AEAQ=CAI")).isOk = true := by decide
    rw [Text.Base32.decode_eq_ok_iff.mpr same] at refused
    exact refused rfl

end RoundKey
