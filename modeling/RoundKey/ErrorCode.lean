/-!
# Failure classes of a server

The classes that a server names in an error reply, with their names on the wire and their texts.
Every name that is not listed reads as the unknown class.
-/
namespace RoundKey

/-- `ErrorCode` — why a server refused a request. -/
inductive ErrorCode where
  /-- The request makes no sense. -/
  | badRequest
  /-- The server could not use its database. -/
  | databaseError
  /-- The username is not allowed. -/
  | invalidUsername
  /-- The login key is not allowed. -/
  | invalidLoginKey
  /-- Nobody registered the username. -/
  | notRegistered
  /-- Nobody proved ownership of the username. -/
  | notVerified
  /-- Somebody registered the username before. -/
  | alreadyRegistered
  /-- A registration of the username is under way. -/
  | registrationInProgress
  /-- The server could not send its message. -/
  | sendingEmail
  /-- The server has no such round. -/
  | roundNotFound
  /-- The long-term key is not allowed. -/
  | invalidUserLongTermKey
  /-- The signature of the request does not verify. -/
  | invalidSignature
  /-- The token proves nothing. -/
  | invalidToken
  /-- The token is too old. -/
  | expiredToken
  /-- Any other class. -/
  | unknown
deriving DecidableEq, Repr

namespace ErrorCode

/-- The name of a class on the wire. -/
def name : ErrorCode → String
  | badRequest => "bad_request"
  | databaseError => "database_error"
  | invalidUsername => "invalid_username"
  | invalidLoginKey => "invalid_login_key"
  | notRegistered => "not_registered"
  | notVerified => "not_verified"
  | alreadyRegistered => "already_registered"
  | registrationInProgress => "registration_in_progress"
  | sendingEmail => "sending_email"
  | roundNotFound => "round_not_found"
  | invalidUserLongTermKey => "invalid_user_long_term_key"
  | invalidSignature => "invalid_signature"
  | invalidToken => "invalid_token"
  | expiredToken => "expired_token"
  | unknown => "unknown"

/-- The classes that have names of their own. -/
def named : List ErrorCode :=
  [badRequest, databaseError, invalidUsername, invalidLoginKey, notRegistered, notVerified,
   alreadyRegistered, registrationInProgress, sendingEmail, roundNotFound,
   invalidUserLongTermKey, invalidSignature, invalidToken, expiredToken]

/-- The class of a name. -/
def ofName (text : String) : ErrorCode :=
  (named.find? fun code => code.name == text).getD unknown

/-- `ErrorCode::fmt` — the text of a class. -/
def message : ErrorCode → String
  | badRequest => "bad request"
  | databaseError => "database error"
  | invalidUsername => "invalid username"
  | invalidLoginKey => "invalid login key"
  | notRegistered => "username not registered"
  | notVerified => "username not verified"
  | alreadyRegistered => "username already registered"
  | registrationInProgress => "registration in progress"
  | sendingEmail => "error sending verification email"
  | roundNotFound => "round not found"
  | invalidUserLongTermKey => "invalid user long-term key"
  | invalidSignature => "invalid signature"
  | invalidToken => "invalid token"
  | expiredToken => "token expired"
  | unknown => "unknown error"

/-- The name of a class is read as that class. -/
@[simp]
theorem ofName_name (code : ErrorCode) : ofName code.name = code := by
  cases code <;> decide

end ErrorCode

end RoundKey
