import RoundKey.Proofs.ServerError
import RoundKey.Proofs.Text.Quoted

/-!
# The texts of failures

A failure that quotes what a server sent loses nothing of it: the status and the body, or the two
usernames, can be told from the text. Its text stays on one line whatever was sent, since what is
quoted shows no control and no end of a line.
-/
namespace RoundKey

namespace Text

/-- A control character of Unicode. -/
def IsControl (character : Char) : Prop :=
  character.toNat < 0x20 ∨ 0x7F ≤ character.toNat ∧ character.toNat < 0xA0

/-- A character after which a new line starts. -/
def EndsLine (character : Char) : Prop :=
  character ∈ ['\n', '\x0b', '\x0c', '\r', '\u0085', '\u2028', '\u2029']

/-- A text of one line without controls. -/
def IsOneLine (text : String) : Prop :=
  ∀ character ∈ text.toList, ¬IsControl character ∧ ¬EndsLine character

/-- Every character of a text has a shape of its own. -/
def IsShown (text : String) : Prop := ∀ character ∈ text.toList, isUnprintable character = false

/-- A control has no shape of its own. -/
theorem isUnprintable_of_isControl {character : Char} (control : IsControl character) :
    isUnprintable character = true := by
  have first : (0, 31) ∈ unprintableRanges := by decide
  have second : (127, 160) ∈ unprintableRanges := by decide
  rw [isUnprintable, List.any_eq_true]
  cases control with
  | inl low => exact ⟨(0, 31), first, by simp; omega⟩
  | inr high => exact ⟨(127, 160), second, by simp; omega⟩

/-- A text whose characters all have a shape is one line without controls. -/
theorem IsShown.isOneLine {text : String} (shown : IsShown text) : IsOneLine text := by
  have ends : ∀ character ∈ ['\n', '\x0b', '\x0c', '\r', '\u0085', '\u2028', '\u2029'],
      isUnprintable character = true := List.all_iff_forall_prop.mp (by decide +kernel)
  intro character inside
  have shape := shown character inside
  constructor
  · intro control
    exact Bool.false_ne_true (shape.symm.trans (isUnprintable_of_isControl control))
  · intro ending
    exact Bool.false_ne_true (shape.symm.trans (ends character ending))

/-- Texts whose characters all have a shape make one such text. -/
theorem IsShown.append {first second : String} (shown : IsShown first) (shown' : IsShown second) :
    IsShown (first ++ second) := by
  intro character inside
  rw [String.toList_append, List.mem_append] at inside
  cases inside with
  | inl front => exact shown character front
  | inr back => exact shown' character back

/-- A quoted text shows only characters with a shape. -/
theorem isShown_quote (text : String) : IsShown (quote text) := by
  intro character inside
  rw [quote, String.toList_ofList] at inside
  exact isUnprintable_of_mem_quoteChars inside

/-- Whether a character is a printable one of ASCII. -/
def isPrintableAscii (character : Char) : Bool :=
  0x20 ≤ character.toNat ∧ character.toNat < 0x7F

/-- The printable characters of ASCII have a shape of their own. -/
theorem isShown_of_ascii {text : String} (ascii : text.toList.all isPrintableAscii = true) :
    IsShown text := by
  have apart : ∀ range ∈ unprintableRanges, range.2 < 0x20 ∨ 0x7F ≤ range.1 := by decide +kernel
  intro character inside
  have bounds := of_decide_eq_true (List.all_eq_true.mp ascii character inside)
  rw [isUnprintable, List.any_eq_false]
  intro range listed
  have outside := apart range listed
  simp only [Bool.and_eq_true, decide_eq_true_eq]
  omega

end Text

namespace Status

/-- The characters of the text of a status: the digits of its number, and its phrase. -/
theorem toList_text (status : Status) :
    status.text.toList = Nat.toDigits 10 status.code ++ ' ' :: status.phrase.toList := by
  simp [text]

/-- The number of a status stands in front of what follows its text. -/
theorem takeWhile_text_append (status : Status) (rest : List Char) :
    (status.text.toList ++ rest).takeWhile Char.isDigit = Nat.toDigits 10 status.code := by
  have digits : ∀ digit ∈ Nat.toDigits 10 status.code, digit.isDigit = true := fun _ inside =>
    Nat.isDigit_of_mem_toDigits (by decide) (by decide) inside
  rw [toList_text, List.append_assoc, List.takeWhile_append_of_pos digits, List.cons_append,
    List.takeWhile_cons_of_neg (by decide), List.append_nil]

/-- The texts of two statuses in front of what follows them are the same only of the same status,
with the same behind it. -/
theorem text_append_inj {first second : Status} {rest rest' : List Char} :
    first.text.toList ++ rest = second.text.toList ++ rest' ↔ first = second ∧ rest = rest' := by
  constructor
  · intro same
    have digits : Nat.toDigits 10 first.code = Nat.toDigits 10 second.code := by
      rw [← takeWhile_text_append first rest, same, takeWhile_text_append]
    have code : first.code = second.code := by
      rw [← Nat.ofDigitChars_ten_toDigits (n := first.code), digits,
        Nat.ofDigitChars_ten_toDigits]
    have status : first = second := congrArg Status.mk code
    rw [status] at same
    exact ⟨status, List.append_cancel_left same⟩
  · intro same
    rw [same.1, same.2]

/-- A status is shown in printable characters of ASCII. -/
theorem isShown_text (status : Status) : Text.IsShown status.text := by
  have phrases : ∀ phrase ∈ "<unknown status code>" :: phrases.map Prod.snd,
      phrase.toList.all Text.isPrintableAscii = true := by
    decide +kernel
  have listed : status.phrase ∈ "<unknown status code>" :: Status.phrases.map Prod.snd := by
    unfold phrase
    cases found : Status.phrases.lookup status.code with
    | none => exact List.mem_cons_self
    | some phrase =>
      obtain ⟨before, after, parts, -⟩ := List.lookup_eq_some_iff.mp found
      have inside : (status.code, phrase) ∈ Status.phrases := by simp [parts]
      exact List.mem_cons_of_mem _ (List.mem_map_of_mem inside)
  have digits : (Nat.toDigits 10 status.code).all Text.isPrintableAscii = true := by
    rw [List.all_eq_true]
    intro digit inside
    have decimal := Nat.isDigit_of_mem_toDigits (by decide) (by decide) inside
    have bounds := Char.isDigit_iff_toNat.mp decimal
    simp only [Char.reduceToNat] at bounds
    rw [Text.isPrintableAscii, decide_eq_true_eq]
    omega
  have space : Text.isPrintableAscii ' ' = true := by decide
  apply Text.isShown_of_ascii
  rw [toList_text, List.all_append, List.all_cons, digits, space, phrases _ listed]
  rfl

end Status

/-- A reply that is no success and holds no error of the server. -/
structure Reply.IsUnexplained (reply : Reply) : Prop where
  /-- It is no success. -/
  failed : reply.status ≠ .success
  /-- No error is read from its body. -/
  unread : ∀ error : ServerError, Message.read reply.body ≠ .ok error

/-- An unexplained reply is answered with its status and its body. -/
theorem Reply.IsUnexplained.decodeReply_eq {α : Type} {reply : Reply}
    (unexplained : reply.IsUnexplained) (read : List UInt8 → Except Json.Fault α) :
    decodeReply read reply =
      .error (.unparseableErrorBody reply.status (Text.ofUtf8Lossy reply.body)) := by
  rw [decodeReply, if_neg unexplained.failed]
  cases outcome : (Message.read reply.body : Except Json.Fault ServerError) with
  | ok error => exact absurd outcome (unexplained.unread error)
  | error fault => rfl

namespace ClientError

/-- A failure whose text quotes what a server sent. -/
inductive QuotesReply : ClientError → Prop where
  /-- It quotes a body. -/
  | body (status : Status) (body : String) : QuotesReply (.unparseableErrorBody status body)
  /-- It quotes a username. -/
  | username (expected actual : String) : QuotesReply (.usernameMismatch expected actual)

/-- The characters of the text of an unexplained failure. -/
theorem toList_message_unparseableErrorBody (status : Status) (body : String) :
    (unparseableErrorBody status body).message.toList =
      "Error response (".toList ++ (status.text.toList ++
        (") with unparseable body: ".toList ++ Text.quoteChars body.toList)) := by
  show ("Error response (" ++ status.text ++ ") with unparseable body: " ++
    Text.quote body).toList = _
  simp only [Text.quote, String.toList_append, String.toList_ofList, List.append_assoc]

/-- The characters of the text of a mismatch of usernames. -/
theorem toList_message_usernameMismatch (expected actual : String) :
    (usernameMismatch expected actual).message.toList =
      "Expected reply for username ".toList ++ (Text.quoteChars expected.toList ++
        (", but got ".toList ++ (Text.quoteChars actual.toList ++ "!".toList))) := by
  show ("Expected reply for username " ++ Text.quote expected ++ ", but got " ++
    Text.quote actual ++ "!").toList = _
  simp only [Text.quote, String.toList_append, String.toList_ofList, List.append_assoc]

/-- An unexplained failure tells its status and its body. -/
theorem message_unparseableErrorBody_inj {first second : Status} {body body' : String} :
    (unparseableErrorBody first body).message = (unparseableErrorBody second body').message ↔
      first = second ∧ body = body' := by
  constructor
  · intro same
    have characters := congrArg String.toList same
    rw [toList_message_unparseableErrorBody, toList_message_unparseableErrorBody] at characters
    have status := Status.text_append_inj.mp (List.append_cancel_left characters)
    have quoted := congrArg String.ofList (List.append_cancel_left status.2)
    exact ⟨status.1, Text.quote_inj.mp quoted⟩
  · rintro ⟨rfl, rfl⟩
    rfl

/-- A mismatch of usernames tells both. The first quoted name ends at its own closing quote,
whatever the server put into the second. -/
theorem message_usernameMismatch_inj {expected actual expected' actual' : String} :
    (usernameMismatch expected actual).message = (usernameMismatch expected' actual').message ↔
      expected = expected' ∧ actual = actual' := by
  constructor
  · intro same
    have characters := congrArg String.toList same
    rw [toList_message_usernameMismatch, toList_message_usernameMismatch] at characters
    have first := Text.quoteChars_append_inj.mp (List.append_cancel_left characters)
    have second := Text.quoteChars_append_inj.mp (List.append_cancel_left first.2)
    exact ⟨String.toList_inj.mp first.1, String.toList_inj.mp second.1⟩
  · rintro ⟨rfl, rfl⟩
    rfl

/-- The text of a failure that quotes a reply shows only characters with a shape. -/
theorem QuotesReply.isShown_message {error : ClientError} (quotes : error.QuotesReply) :
    Text.IsShown error.message := by
  have ascii : ∀ text ∈ ["Error response (", ") with unparseable body: ",
      "Expected reply for username ", ", but got ", "!"],
      text.toList.all Text.isPrintableAscii = true := by
    decide +kernel
  have fixed := fun text listed => Text.isShown_of_ascii (ascii text listed)
  cases quotes with
  | body status body =>
    have front : Text.IsShown ("Error response (" ++ status.text) :=
      (fixed _ (by decide)).append status.isShown_text
    exact (front.append (fixed _ (by decide))).append (Text.isShown_quote body)
  | username expected actual =>
    have front : Text.IsShown ("Expected reply for username " ++ Text.quote expected) :=
      (fixed _ (by decide)).append (Text.isShown_quote expected)
    have both : Text.IsShown
        ("Expected reply for username " ++ Text.quote expected ++ ", but got " ++
          Text.quote actual) :=
      (front.append (fixed _ (by decide))).append (Text.isShown_quote actual)
    exact both.append (fixed _ (by decide))

end ClientError

namespace Client

variable {client : Client} {reply : Reply}

/-- A finished call fails with the status and the body of an unexplained reply. -/
theorem finish_of_isUnexplained (unexplained : reply.IsUnexplained) (pending : Pending) :
    (client.finish (.ok reply) pending).result =
      .error (.unparseableErrorBody reply.status (Text.ofUtf8Lossy reply.body)) := by
  have receives (Request : Type) {Answer : Type} [Endpoint Request Answer] :
      Endpoint.receive Request client.identity (.ok reply) =
        .error (.unparseableErrorBody reply.status (Text.ofUtf8Lossy reply.body)) :=
    unexplained.decodeReply_eq (Endpoint.readReply Request)
  have acknowledges {Request Answer : Type} [Endpoint Request Answer] :
      (acknowledged (Endpoint.send Request client.identity (.ok reply))).result =
        .error (.unparseableErrorBody reply.status (Text.ofUtf8Lossy reply.body)) := by
    simp only [acknowledged, Endpoint.send, receives, Except.map, Upshot.ofExcept]
  cases pending with
  | register request => exact acknowledges
  | verify request => exact acknowledges
  | status request => exact acknowledges
  | extract secret request => simp only [finish, finishExtract, Endpoint.send, receives]

/-- A call that starts fails with the status and the body of an unexplained reply. -/
theorem runStep_of_isUnexplained {call : Call} {before : Randomness}
    (started : (client.start? call before).isSome = true) (unexplained : reply.IsUnexplained) :
    (client.runStep ⟨call, .ok reply⟩ before).outcome.result =
      .error (.unparseableErrorBody reply.status (Text.ofUtf8Lossy reply.body)) := by
  obtain ⟨⟨pending, rest⟩, found⟩ := Option.isSome_iff_exists.mp started
  rw [runStep_of_some found]
  exact finish_of_isUnexplained unexplained pending

/-- Two calls that start and get unexplained replies with texts as bodies fail with one and the same
text exactly if the replies are the same. Two mismatches of usernames have one text exactly if they
expected one name and got one name. Either text is one line without controls, whatever bytes, text
or not, and whatever names the server sent. -/
theorem diagnostics_lose_nothing :
    (∀ (client client' : Client) (call call' : Call) (before before' : Randomness)
        (reply reply' : Reply) (text text' : String),
      (client.start? call before).isSome = true → (client'.start? call' before').isSome = true →
      reply.IsUnexplained → reply'.IsUnexplained →
      reply.body = Text.utf8 text → reply'.body = Text.utf8 text' →
      ∃ error error',
        (client.runStep ⟨call, .ok reply⟩ before).outcome.result = .error error ∧
        (client'.runStep ⟨call', .ok reply'⟩ before').outcome.result = .error error' ∧
        (error.message = error'.message ↔
          reply.status = reply'.status ∧ reply.body = reply'.body)) ∧
    (∀ expected actual expected' actual',
      (ClientError.usernameMismatch expected actual).message =
          (ClientError.usernameMismatch expected' actual').message ↔
        expected = expected' ∧ actual = actual') ∧
    (∀ (client : Client) (call : Call) (before : Randomness) (reply : Reply),
      (client.start? call before).isSome = true → reply.IsUnexplained →
      ∃ error, (client.runStep ⟨call, .ok reply⟩ before).outcome.result = .error error ∧
        Text.IsOneLine error.message) ∧
    (∀ expected actual,
      Text.IsOneLine (ClientError.usernameMismatch expected actual).message) := by
  have oneLine {error : ClientError} (quotes : error.QuotesReply) : Text.IsOneLine error.message :=
    quotes.isShown_message.isOneLine
  refine ⟨?_, fun _ _ _ _ => ClientError.message_usernameMismatch_inj, ?_,
    fun expected actual => oneLine (.username expected actual)⟩
  case refine_2 =>
    intro client call before reply started unexplained
    exact ⟨_, runStep_of_isUnexplained started unexplained, oneLine (.body _ _)⟩
  intro client client' call call' before before' reply reply' text text' started started'
    unexplained unexplained' body body'
  have shown : Text.ofUtf8Lossy reply.body = text := by
    rw [body, Text.ofUtf8Lossy, Text.ofUtf8?_utf8]
  have shown' : Text.ofUtf8Lossy reply'.body = text' := by
    rw [body', Text.ofUtf8Lossy, Text.ofUtf8?_utf8]
  have failed := runStep_of_isUnexplained started unexplained
  have failed' := runStep_of_isUnexplained started' unexplained'
  rw [shown] at failed
  rw [shown'] at failed'
  refine ⟨_, _, failed, failed', ?_⟩
  rw [ClientError.message_unparseableErrorBody_inj, body, body', Text.utf8_inj]

/-- A body that is a line break and one that is its escape have different texts, under one status;
and so have two mismatches that put the words between the names into either name. A body that is no
text, with a line break in it, and a mismatch with a separator of lines have texts of one line. -/
theorem diagnostics_of_lookalikes :
    let client : Client :=
      ⟨⟨"pkg.example:80", ⟨.zero 32⟩, rfl⟩, "alice", ⟨.zero 32⟩, ⟨.zero 32⟩⟩
    let reply (text : String) : Reply := ⟨⟨502⟩, Text.utf8 text⟩
    let result (call : Call) (reply : Reply) :=
      (client.runStep ⟨call, .ok reply⟩ []).outcome.result
    let mismatch (expected actual : String) := ClientError.usernameMismatch expected actual
    (∃ error error', result .register (reply "\n") = .error error ∧
      result (.verify [1]) (reply "\\n") = .error error' ∧ error.message ≠ error'.message) ∧
    (mismatch "a\", but got \"b" "c").message ≠ (mismatch "a" "b\", but got \"c").message ∧
    (∃ error, result .register ⟨⟨502⟩, [0xFF, 0x0A]⟩ = .error error ∧
      Text.IsOneLine error.message) ∧
    Text.IsOneLine (mismatch "a" "b\r\u2028").message := by
  intro client reply result mismatch
  obtain ⟨bodies, names, oneLine, oneLine'⟩ := diagnostics_lose_nothing
  have unexplained (body : List UInt8)
      (refused : (Message.read body : Except Json.Fault ServerError).isOk = false) :
      Reply.IsUnexplained ⟨⟨502⟩, body⟩ := by
    have failed : (⟨502⟩ : Status) ≠ .success := by decide
    refine ⟨failed, fun error read => ?_⟩
    have read : (Message.read body : Except Json.Fault ServerError) = .ok error := read
    rw [read] at refused
    contradiction
  obtain ⟨error, error', failed, failed', same⟩ :=
    bodies client client .register (.verify [1]) [] [] (reply "\n") (reply "\\n") "\n" "\\n"
      rfl rfl (unexplained _ (by decide +kernel)) (unexplained _ (by decide +kernel)) rfl rfl
  have noText := unexplained [0xFF, 0x0A] (by decide +kernel)
  refine ⟨⟨error, error', failed, failed', fun text => ?_⟩, fun text => ?_,
    oneLine client .register [] _ rfl noText, oneLine' _ _⟩
  · have bodies := (same.mp text).2
    revert bodies
    decide
  · have names := (names _ _ _ _).mp text
    revert names
    decide

end Client

end RoundKey
