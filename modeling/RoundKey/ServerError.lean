import RoundKey.Message

/-!
# Errors of a server

The body of a reply without success: a failure class and a message, which may be left out. It
reads as a plain record.
-/
namespace RoundKey

open RoundKey.Data

/-- `ServerError` — what a server says when it refuses. -/
structure ServerError where
  /-- Why it refuses. -/
  code : ErrorCode
  /-- Its own words. -/
  message : String
deriving DecidableEq, Repr

instance : Message ServerError where
  schema := ⟨"ServerError",
    [{ name := "Code", kind := .code }, { name := "Message", kind := .text, absent := some "" }]⟩
  toValues error := (error.code, error.message, ())
  ofValues values := ⟨values.1, values.2.1⟩
  ofValues_toValues _ := rfl
  toValues_ofValues _ := rfl

/-- `ServerError` as it is shown — its class, then its own words. -/
def ServerError.text (error : ServerError) : String :=
  error.code.message ++ ": " ++ error.message

end RoundKey
