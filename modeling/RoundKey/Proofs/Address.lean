import Mathlib.Data.Bool.AllAny
import Mathlib.Data.List.TakeWhile
import RoundKey.Proofs.ServerIdentity

/-!
# Bare hosts and ports

An address is meant to be a bare host and port: a name, or a number in brackets, and behind it a
colon and a decimal number, if there is a port. Every such address passes the check. The check is
wider, though: it looks for three signs and for white space, but neither for at signs, backslashes
and brackets, nor whether there are a host and a port at all. What it leaves open is described
exactly.
-/
namespace RoundKey.Address

open RoundKey.ServerIdentity

/-- The greatest port. -/
def maxPort : Nat := 65535

/-- A character that has no meaning of its own in an address. -/
structure IsPlain (character : Char) : Prop where
  /-- It is none of these. -/
  noSign : character ∉ ['/', '\\', '?', '#', '@', '[', ']']
  /-- It is no white space. -/
  noSpace : Text.isWhiteSpace character = false

/-- The text of a host: a name, or a number in brackets, in which colons may stand. -/
inductive IsHostText : List Char → Prop where
  /-- A name. -/
  | name {text : List Char} (nonempty : text ≠ [])
    (plain : ∀ character ∈ text, IsPlain character ∧ character ≠ ':') : IsHostText text
  /-- A number in brackets. -/
  | bracketed {text : List Char} (nonempty : text ≠ [])
    (plain : ∀ character ∈ text, IsPlain character) : IsHostText ('[' :: (text ++ [']']))

/-- What may follow a host. -/
inductive IsPortText : List Char → Prop where
  /-- Nothing. -/
  | none : IsPortText []
  /-- A colon and a decimal number in the range of ports. -/
  | decimal {digits : List Char} (nonempty : digits ≠ [])
    (decimal : ∀ digit ∈ digits, digit.isDigit = true)
    (inRange : Nat.ofDigitChars 10 digits 0 ≤ maxPort) : IsPortText (':' :: digits)

/-- A text is a bare host and what may follow it. -/
structure Spells (text host port : List Char) : Prop where
  /-- The text is made of the two. -/
  parts : text = host ++ port
  /-- The first is a host. -/
  isHost : IsHostText host
  /-- The second may follow it. -/
  isPort : IsPortText port

/-- An address is a bare host, or a bare host and port. -/
def IsBare (address : String) : Prop := ∃ host port, Spells address.toList host port

/-- The host at the front of a text: up to its first closing bracket if it begins with an opening
one, else up to its first colon. -/
def frontHost (text : List Char) : List Char :=
  if text.head? = some '[' then text.takeWhile (· ≠ ']') ++ (text.dropWhile (· ≠ ']')).take 1
  else text.takeWhile (· ≠ ':')

/-- What follows the host at the front of a text. -/
def behindHost (text : List Char) : List Char :=
  if text.head? = some '[' then (text.dropWhile (· ≠ ']')).drop 1
  else text.dropWhile (· ≠ ':')

/-- What a bare host and port is besides what the check asks for. -/
structure KeepsForm (text : List Char) : Prop where
  /-- Nothing in it is something to log in with. -/
  noLogin : '@' ∉ text
  /-- No backslash stands for a slash in it. -/
  noBackslash : '\\' ∉ text
  /-- A bracket opens at its front or nowhere. -/
  opening : '[' ∉ text.tail
  /-- A bracket closes exactly if one opens. -/
  closing : ']' ∈ text ↔ text.head? = some '['
  /-- The host at its front is not empty, with or without brackets. -/
  host : frontHost text ∉ [[], ['[', ']']]
  /-- What follows the host may follow one. -/
  port : IsPortText (behindHost text)

variable {text host port inside : List Char} {digit : Char} {address : String}

/-- A digit has no meaning of its own. -/
theorem isPlain_of_isDigit (isDigit : digit.isDigit = true) : IsPlain digit := by
  have bounds : 48 ≤ digit.toNat ∧ digit.toNat ≤ 57 := by
    simpa [Char.isDigit, UInt32.le_iff_toNat_le] using isDigit
  have apart : ∀ range ∈ Text.whiteSpaceRanges, range.2 < 48 ∨ 57 < range.1 := by decide
  constructor
  · intro isSign
    have other : ∀ sign ∈ ['/', '\\', '?', '#', '@', '[', ']'],
        sign.toNat < 48 ∨ 57 < sign.toNat := List.all_iff_forall_prop.mp (by decide)
    have outside := other digit isSign
    omega
  · rw [Text.isWhiteSpace, List.any_eq_false]
    intro range listed
    have outside := apart range listed
    simp only [Bool.and_eq_true, decide_eq_true_eq]
    omega

/-- The characters behind a host have no meaning of their own. -/
theorem IsPortText.isPlain (isPort : IsPortText port) : ∀ character ∈ port, IsPlain character := by
  cases isPort with
  | none => simp
  | decimal nonempty decimal inRange =>
    intro character listed
    rcases List.mem_cons.mp listed with colon | behind
    · rw [colon]
      exact ⟨by decide, by decide⟩
    · exact isPlain_of_isDigit (decimal character behind)

/-- What follows a host is nothing, or begins with a colon. -/
theorem IsPortText.head?_eq (isPort : IsPortText port) : port = [] ∨ port.head? = some ':' := by
  cases isPort with
  | none => exact .inl rfl
  | decimal nonempty decimal inRange => exact .inr rfl

/-- The two parts of a text make the text. -/
theorem frontHost_append_behindHost (text : List Char) :
    frontHost text ++ behindHost text = text := by
  unfold frontHost behindHost
  split
  · rw [List.append_assoc, List.take_append_drop, List.takeWhile_append_dropWhile]
  · exact List.takeWhile_append_dropWhile

/-- No bracket stands in a plain text, not even in front. -/
theorem not_mem_of_plain {sign : Char} (isSign : sign ∈ ['[', ']'])
    (plain : ∀ character ∈ text, IsPlain character) : sign ∉ text := fun listed =>
  (plain sign listed).noSign (List.mem_append_right ['/', '\\', '?', '#', '@'] isSign)

/-- A text that is made of a name and what follows it is cut in front of its first colon. -/
theorem parts_name (noBracket : (host ++ port).head? ≠ some '[')
    (noColon : ∀ character ∈ host, character ≠ ':') (begins : port = [] ∨ port.head? = some ':') :
    frontHost (host ++ port) = host ∧ behindHost (host ++ port) = port := by
  have passed : ∀ character ∈ host, decide (character ≠ ':') = true := by simpa using noColon
  have front : frontHost (host ++ port) = host := by
    rw [frontHost, if_neg noBracket, List.takeWhile_append_of_pos passed]
    rcases begins with nothing | colon
    · rw [nothing, List.takeWhile_nil, List.append_nil]
    · obtain ⟨digits, rfl⟩ := List.head?_eq_some_iff.mp colon
      simp
  have whole := frontHost_append_behindHost (host ++ port)
  rw [front] at whole
  exact ⟨front, List.append_cancel_left whole⟩

/-- A number in brackets ends with its bracket. -/
theorem parts_bracketed (noBracket : ']' ∉ inside) :
    frontHost ('[' :: inside ++ ']' :: port) = '[' :: inside ++ [']'] ∧
      behindHost ('[' :: inside ++ ']' :: port) = port := by
  have noClosing : ∀ character ∈ '[' :: inside, decide (character ≠ ']') = true := by
    intro character listed
    rcases List.mem_cons.mp listed with first | later
    · rw [first]
      decide
    · simpa using ne_of_mem_of_not_mem later noBracket
  have opens : ('[' :: inside ++ ']' :: port).head? = some '[' := rfl
  constructor
  · rw [frontHost, if_pos opens, List.takeWhile_append_of_pos noClosing,
      List.dropWhile_append_of_pos noClosing]
    simp
  · rw [behindHost, if_pos opens, List.dropWhile_append_of_pos noClosing]
    simp

/-- A number in brackets and what follows it, with the bracket that closes in between. -/
theorem bracketed_append (inside port : List Char) :
    '[' :: (inside ++ [']']) ++ port = '[' :: inside ++ ']' :: port := by
  simp

/-- A bare host and port is plain, with a name in front, or has a pair of brackets in it that opens
in front, and is plain but for them. -/
theorem Spells.shape (spells : Spells text host port) :
    ((∀ character ∈ text, IsPlain character) ∧ ∀ character ∈ host, character ≠ ':') ∨
      ∃ inside, host = '[' :: (inside ++ [']']) ∧ text = '[' :: inside ++ ']' :: port ∧
        ∀ character ∈ inside ++ port, IsPlain character := by
  obtain ⟨rfl, isHost, isPort⟩ := spells
  cases isHost with
  | name nonempty plain =>
    refine .inl ⟨?_, fun character listed => (plain character listed).2⟩
    exact List.forall_mem_append.mpr ⟨fun _ listed => (plain _ listed).1, isPort.isPlain⟩
  | @bracketed inside nonempty plain =>
    refine .inr ⟨inside, rfl, bracketed_append inside port, ?_⟩
    exact List.forall_mem_append.mpr ⟨plain, isPort.isPlain⟩

/-- The two parts that a bare host and port is spelled of are those that it is cut into. -/
theorem Spells.parts_eq (spells : Spells text host port) :
    frontHost text = host ∧ behindHost text = port := by
  rcases spells.shape with ⟨plain, noColon⟩ | ⟨inside, rfl, rfl, plain⟩
  · have noBracket : text.head? ≠ some '[' := fun opens =>
      not_mem_of_plain (by simp) plain (List.mem_of_mem_head? opens)
    rw [spells.parts] at noBracket ⊢
    exact parts_name noBracket noColon spells.isPort.head?_eq
  · have plainInside := (List.forall_mem_append.mp plain).1
    exact parts_bracketed (not_mem_of_plain (by simp) plainInside)

/-- A bracket opens at the front of a bare host and port or nowhere, and one closes exactly if one
opens. -/
theorem Spells.brackets (spells : Spells text host port) :
    '[' ∉ text.tail ∧ (']' ∈ text ↔ text.head? = some '[') := by
  rcases spells.shape with ⟨plain, -⟩ | ⟨inside, rfl, rfl, plain⟩
  · have noOpening : '[' ∉ text := not_mem_of_plain (by simp) plain
    have noClosing : ']' ∉ text := not_mem_of_plain (by simp) plain
    exact ⟨fun listed => noOpening (List.mem_of_mem_tail listed),
      iff_of_false noClosing fun opens => noOpening (List.mem_of_mem_head? opens)⟩
  · have noOpening : '[' ∉ inside ++ port := not_mem_of_plain (by simp) plain
    rw [List.mem_append, not_or] at noOpening
    exact ⟨by simp [noOpening], iff_of_true (by simp) rfl⟩

/-- What stands in a bare host and port is a bracket or plain. -/
theorem Spells.isPlain_of_mem (spells : Spells text host port) {character : Char}
    (listed : character ∈ text) : character = '[' ∨ character = ']' ∨ IsPlain character := by
  rcases spells.shape with ⟨plain, -⟩ | ⟨inside, rfl, rfl, plain⟩
  · exact .inr (.inr (plain character listed))
  · rw [List.mem_append, List.mem_cons, List.mem_cons] at listed
    rcases listed with (opening | between) | closing | behind
    · exact .inl opening
    · exact .inr (.inr (plain character (List.mem_append_left port between)))
    · exact .inr (.inl closing)
    · exact .inr (.inr (plain character (List.mem_append_right inside behind)))

/-- A host is neither empty nor an empty pair of brackets. -/
theorem IsHostText.not_mem_empty (isHost : IsHostText host) : host ∉ [[], ['[', ']']] := by
  cases isHost with
  | name nonempty plain =>
    intro listed
    have brackets : host = ['[', ']'] := by simpa [nonempty] using listed
    exact (plain '[' (by simp [brackets])).1.noSign (by simp)
  | bracketed nonempty plain => simp [nonempty]

/-- A bare host and port passes the check. -/
theorem Spells.passes (spells : Spells address.toList host port) : IsHost address := by
  constructor
  · intro empty
    have parts : host ++ port = [] := by rw [← spells.parts, empty]; rfl
    have nothing : host = [] := (List.append_eq_nil_iff.mp parts).1
    exact spells.isHost.not_mem_empty (by simp [nothing])
  · intro character listed
    rcases spells.isPlain_of_mem listed with rfl | rfl | plain
    · decide
    · decide
    · have noSign := plain.noSign
      simp only [List.mem_cons, not_or] at noSign
      exact ⟨noSign.1, noSign.2.2.1, noSign.2.2.2.1, plain.noSpace⟩

/-- A bare host and port has the form that the check leaves open. -/
theorem Spells.keepsForm (spells : Spells text host port) : KeepsForm text := by
  obtain ⟨opening, closing⟩ := spells.brackets
  obtain ⟨front, behind⟩ := spells.parts_eq
  have noSign {sign : Char} (isSign : sign ∈ ['@', '\\']) : sign ∉ text := by
    intro listed
    rcases spells.isPlain_of_mem listed with rfl | rfl | plain
    · contradiction
    · contradiction
    · simp only [List.mem_cons, List.not_mem_nil, or_false] at isSign
      rcases isSign with rfl | rfl
      · exact plain.noSign (by simp)
      · exact plain.noSign (by simp)
  exact {
    noLogin := noSign (by decide)
    noBackslash := noSign (by decide)
    opening := opening
    closing := closing
    host := front ▸ spells.isHost.not_mem_empty
    port := behind ▸ spells.isPort }

/-- A sign that neither begins a text nor follows in it does not stand in it. -/
theorem not_mem_of_tail {sign : Char} (front : text.head? ≠ some sign) (behind : sign ∉ text.tail) :
    sign ∉ text := by
  cases text with
  | nil => exact List.not_mem_nil
  | cons first others =>
    rw [List.mem_cons, not_or]
    exact ⟨fun same => front (congrArg some same.symm), behind⟩

/-- What stands at the front of an address is a host, if the address passes the check and has the
form that the check leaves open. -/
theorem KeepsForm.isHostText (form : KeepsForm address.toList) (passes : IsHost address) :
    IsHostText (frontHost address.toList) := by
  have plain {character : Char} (listed : character ∈ address.toList)
      (noOpening : character ≠ '[') (noClosing : character ≠ ']') : IsPlain character := by
    obtain ⟨noSlash, noQuery, noFragment, noSpace⟩ := passes.plain character listed
    have noLogin : character ≠ '@' := ne_of_mem_of_not_mem listed form.noLogin
    have noBackslash : character ≠ '\\' := ne_of_mem_of_not_mem listed form.noBackslash
    exact ⟨by simp [*], noSpace⟩
  have nonempty := form.host
  by_cases opens : address.toList.head? = some '['
  · obtain ⟨others, whole⟩ := List.head?_eq_some_iff.mp opens
    have closes : ']' ∈ others := by simpa [whole] using form.closing.mpr opens
    obtain ⟨inside, port, rfl, noClosing⟩ := List.eq_append_cons_of_mem closes
    have noOpening : '[' ∉ inside := by
      have opening := form.opening
      rw [whole, List.tail_cons, List.mem_append, not_or] at opening
      exact opening.1
    have parts : frontHost address.toList = '[' :: (inside ++ [']']) := by
      rw [whole]
      exact (parts_bracketed noClosing).1
    rw [parts] at nonempty ⊢
    refine .bracketed (fun nothing => nonempty (by simp [nothing])) fun character listed => ?_
    exact plain (by simp [whole, listed]) (ne_of_mem_of_not_mem listed noOpening)
      (ne_of_mem_of_not_mem listed noClosing)
  · have noOpening : '[' ∉ address.toList := not_mem_of_tail opens form.opening
    have noClosing : ']' ∉ address.toList := fun closes => opens (form.closing.mp closes)
    rw [frontHost, if_neg opens] at nonempty ⊢
    refine .name (fun nothing => nonempty (nothing ▸ List.mem_cons_self)) fun character listed => ?_
    have inText : character ∈ address.toList := (List.takeWhile_sublist _).subset listed
    refine ⟨plain inText (ne_of_mem_of_not_mem inText noOpening)
      (ne_of_mem_of_not_mem inText noClosing), ?_⟩
    simpa using List.mem_takeWhile_imp listed

/-- An address is a bare host and port exactly if it passes the check and has the form that the
check leaves open. -/
theorem isBare_iff : IsBare address ↔ IsHost address ∧ KeepsForm address.toList := by
  constructor
  · rintro ⟨host, port, spells⟩
    exact ⟨spells.passes, spells.keepsForm⟩
  · rintro ⟨passes, form⟩
    exact ⟨_, _, (frontHost_append_behindHost _).symm, form.isHostText passes, form.port⟩

/-- Whether a text may follow a host is decided. -/
instance decidableIsPortText : DecidablePred IsPortText
  | [] => .isTrue .none
  | sign :: digits =>
    decidable_of_iff (sign = ':' ∧ digits ≠ [] ∧ digits.all Char.isDigit = true ∧
      Nat.ofDigitChars 10 digits 0 ≤ maxPort) <| by
        rw [List.all_eq_true]
        constructor
        · rintro ⟨rfl, nonempty, decimal, inRange⟩
          exact .decimal nonempty decimal inRange
        · intro isPort
          cases isPort with
          | decimal nonempty decimal inRange => exact ⟨rfl, nonempty, decimal, inRange⟩

/-- The form that the check leaves open is decided. -/
instance decidableKeepsForm (text : List Char) : Decidable (KeepsForm text) :=
  decidable_of_iff ('@' ∉ text ∧ '\\' ∉ text ∧ '[' ∉ text.tail ∧
    (']' ∈ text ↔ text.head? = some '[') ∧ frontHost text ∉ [[], ['[', ']']] ∧
    IsPortText (behindHost text))
    ⟨fun ⟨noLogin, noBackslash, opening, closing, host, port⟩ =>
      ⟨noLogin, noBackslash, opening, closing, host, port⟩,
    fun ⟨noLogin, noBackslash, opening, closing, host, port⟩ =>
      ⟨noLogin, noBackslash, opening, closing, host, port⟩⟩

/-- Whether an address is a bare host and port is decided. -/
instance decidableIsBare (address : String) : Decidable (IsBare address) :=
  decidable_of_iff (checkAddress address = .ok () ∧ KeepsForm address.toList) <| by
    rw [isBare_iff, checkAddress_eq_ok_iff]

/-- Every bare host and port is accepted. It is cut in one way into a host and what follows it, and
the host stands right behind the scheme in the locators of the server. An address that is accepted
is a bare host and port exactly if it has, besides, the form that the check leaves open: neither at
signs nor backslashes, no brackets but those around its host, a host that is not empty, and nothing
behind the host but a colon and a decimal number in the range of ports. -/
theorem accepted_addresses_exact (address : String) (key : Ed25519.PublicKey) :
    (∀ host port, Spells address.toList host port →
      (∀ host' port', Spells address.toList host' port' → host' = host ∧ port' = port) ∧
      ∃ identity, create address key = .ok identity ∧
        ∀ path, (identity.url path).toList =
          "https://".toList ++ (host ++ (port ++ '/' :: path.toList))) ∧
    ∀ identity, create address key = .ok identity →
      (IsBare address ↔ KeepsForm address.toList) := by
  constructor
  · intro host port spells
    obtain ⟨front, behind⟩ := spells.parts_eq
    obtain ⟨identity, created⟩ : ∃ identity, create address key = .ok identity :=
      exists_create_iff.mpr spells.passes
    refine ⟨fun host' port' spells' => ?_, identity, created, fun path => ?_⟩
    · obtain ⟨front', behind'⟩ := spells'.parts_eq
      exact ⟨front'.symm.trans front, behind'.symm.trans behind⟩
    · rw [toList_url, (create_eq_ok_iff.mp created).1, spells.parts, List.append_assoc]
  · intro identity created
    rw [isBare_iff, and_iff_right (exists_create_iff.mp ⟨identity, created⟩)]

/-- A number in brackets with a port is a bare host and port, so it is accepted and stands in front
of the path in the locators of the server. A port out of range makes it none. -/
theorem bracketed_address_is_accepted :
    let key : Ed25519.PublicKey := ⟨.zero 32⟩
    IsBare "[2001:db8::1]:8443" ∧
      (∃ identity, create "[2001:db8::1]:8443" key = .ok identity ∧
        (identity.url "extract").toList = "https://[2001:db8::1]:8443/extract".toList) ∧
      ¬IsBare "[2001:db8::1]:65536" := by
  intro key
  obtain ⟨host, port, spells⟩ : IsBare "[2001:db8::1]:8443" := by decide
  obtain ⟨identity, created, url⟩ := ((accepted_addresses_exact _ key).1 host port spells).2
  refine ⟨⟨host, port, spells⟩, ⟨identity, created, ?_⟩, by decide⟩
  rw [url, ← List.append_assoc host, ← spells.parts]
  decide

/-- Identities are created for addresses that are no bare host and port: with an at sign, with a
backslash, with a port that is out of range, and without a host. -/
theorem other_addresses_pass :
    let key : Ed25519.PublicKey := ⟨.zero 32⟩
    ∀ address ∈ ["pkg.example.org@evil.example:443", "evil.example\\pkg.example.org:443",
        "\\evil.example", "pkg.example.org:99999", ":443"],
      (create address key).isOk = true ∧ ¬IsBare address := by
  decide

end RoundKey.Address
