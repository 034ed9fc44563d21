import KlassGateway.Auth.Tokens
/-!
# The authentication handlers

Model of `register`, `login`, `logout`, `refresh` and
`verify_and_reset_password` in `api/rest/auth.rs`, with the repository calls
they make.  Each of them is a sequence of separate statements.

The rate limit in front of the handlers is left out.
-/

namespace KlassGateway.Auth

open Lib Lib.Prog Api

/-- What the handlers share: the text functions and the password hashes. -/
structure AuthState where
  platform : Platform
  passwords : Passwords

/-- `RegisterRequest`. -/
structure RegisterRequest where
  name : String
  email : String
  password : String
  deriving DecidableEq

/-- `LoginRequest`. -/
structure LoginRequest where
  email : String
  password : String
  deriving DecidableEq

/-- `VerifyAndResetPasswordRequest`. -/
structure VerifyAndResetPasswordRequest where
  email : String
  securityAnswer : String
  newPassword : String
  deriving DecidableEq

/-- `trim().is_empty()`. -/
def isBlank (s : String) : Bool := (Text.trim s).isEmpty

/-! ## Repository calls -/

/-- `find_by_email`. -/
def findByEmail (email : String) : AuthResult AppError (Option User) :=
  mapErr (fun e : SqlxError => .anyhow ("failed to find user by email: " ++ e.toText))
    (authQuery (.findUserByEmail email))

/-- `insert`. -/
def insertUser (data : InsertUser) : AuthResult AppError User :=
  mapErr (fun e : SqlxError => .anyhow ("failed to insert user: " ++ e.toText))
    (authQuery (.insertUser data))

/-- `update_password`. -/
def updatePassword (id : Int) (passwordHash : String) : AuthResult AppError Unit := do
  let _ ← mapErr (fun e : SqlxError => AppError.anyhow ("failed to update password: " ++ e.toText))
    (authQuery (.updatePassword id passwordHash))

/-- An error that the client sees as internal. -/
def internalError {α : Type} (p : AuthResult String α) : AuthResult AppError α := mapErr .internal p

/-! ## The handlers -/

variable (A : AuthState)

/-- The first check of `register` that fails. -/
def RegisterRequest.fault (body : RegisterRequest) : Option AppError :=
  if isBlank body.name then some (.validation "name is required")
  else if isBlank body.email then some (.validation "email is required")
  else if body.password.utf8ByteSize < 8 then
    some (.validation "password must be at least 8 characters")
  else none

/-- `register`. -/
def register (body : RegisterRequest) : AuthResult AppError Response := do
  match body.fault with
  | some e => throw e
  | none =>
    match ← findByEmail body.email with
    | some _ => throw (.conflict "email already registered")
    | none =>
      let passwordHash ← internalError (hashPassword body.password)
      let user ← insertUser
        { name := Text.trim body.name
          email := Text.trim body.email
          password := passwordHash
          role := "teacher" }
      let token ← internalError (issueToken A.platform user.id "auth" none)
      return createdWithMessage "registered successfully" (.auth user.toResource token)

/-- `record_failed_login_attempt`: a failure of the statement is ignored. -/
def recordFailedLoginAttempt (email : String) (headers : Headers) : AuthProg Unit := do
  let ip := match headers.forwardedFor with
    | some v => Text.trim (String.ofList (v.toList.takeWhile (· != ',')))
    | none => "unknown"
  let userAgent := headers.userAgent.getD ""
  let attemptedAt ← authNow
  let id ← authNewV4
  let _ ← attempt (authQuery (.insertActivityLog
    { id
      action := "failed_login_attempt"
      metadata := .obj
        [("email", .str email), ("ip", .str ip), ("user_agent", .str userAgent),
          ("attempted_at", .str (A.platform.rfc3339 attemptedAt))] }))

/-- A login that is refused. -/
def rejectLogin (email : String) (headers : Headers) : AuthResult AppError Response := do
  recordFailedLoginAttempt A email headers
  throw (.unauthorized "invalid credentials")

/-- `login`. -/
def login (headers : Headers) (body : LoginRequest) : AuthResult AppError Response := do
  if isBlank body.email then throw (.validation "email is required")
  else if body.password.isEmpty then throw (.validation "password is required")
  else
    match ← findByEmail body.email with
    | none => rejectLogin A body.email headers
    | some user =>
      if A.passwords.verifyPassword body.password user.password then
        let token ← internalError (issueToken A.platform user.id "auth" none)
        return okWithMessage "logged in successfully" (.auth user.toResource token)
      else rejectLogin A body.email headers

/-- The token of a request once more: `extract_bearer_token` and
`verify_token`. -/
def requireToken (headers : Headers) : AuthResult AppError PersonalAccessToken :=
  match bearerToken headers with
  | .error e => throw e
  | .ok token => do
    match ← internalError (verifyToken A.platform token) with
    | none => throw (.unauthorized "invalid token")
    | some record => return record

/-- `logout`. -/
def logout (headers : Headers) : AuthResult AppError Response := do
  let _ ← principalFromRequestParts A.platform headers
  let tokenRecord ← requireToken A headers
  internalError (revokeToken tokenRecord.id)
  return okWithMessage "logged out successfully" (.message "token revoked")

/-- `refresh`. -/
def refresh (headers : Headers) : AuthResult AppError Response := do
  let principal ← principalFromRequestParts A.platform headers
  let tokenRecord ← requireToken A headers
  internalError (revokeToken tokenRecord.id)
  let newToken ← internalError (issueToken A.platform principal.userId "auth" none)
  return okWithMessage "token refreshed" (.tokenOnly newToken)

/-- The first check of `verify_and_reset_password` that fails. -/
def VerifyAndResetPasswordRequest.fault (body : VerifyAndResetPasswordRequest) :
    Option AppError :=
  if isBlank body.email then some (.validation "email is required")
  else if isBlank body.securityAnswer then some (.validation "security_answer is required")
  else if body.newPassword.utf8ByteSize < 8 then
    some (.validation "new password must be at least 8 characters")
  else none

/-- `verify_and_reset_password`. -/
def verifyAndResetPassword (body : VerifyAndResetPasswordRequest) :
    AuthResult AppError Response := do
  match body.fault with
  | some e => throw e
  | none =>
    match ← findByEmail body.email with
    | none => throw (.notFound "user not found")
    | some user =>
      match user.securityAnswer with
      | none => throw (.validation "security question not set for this account")
      | some storedAnswer =>
        if A.passwords.verifyPassword body.securityAnswer storedAnswer then
          let newHash ← internalError (hashPassword body.newPassword)
          updatePassword user.id newHash
          internalError (revokeAllForUser user.id)
          return okWithMessage "password reset successfully" (.message "all sessions invalidated")
        else throw (.unauthorized "incorrect security answer")

end KlassGateway.Auth
