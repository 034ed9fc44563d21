import KlassGateway.Auth.Effects
/-!
# Tokens

Model of `auth/tokens.rs` and of the `Principal` extractor of
`auth/middleware.rs`.  A token is the text `id|plain`; the table keeps the
digest of the second part.
-/

namespace KlassGateway.Auth

open Lib Lib.Prog Api

/-- `TOKENABLE_TYPE`. -/
def TOKENABLE_TYPE : String := "App\\Models\\User"

/-- The text of a token. -/
def tokenText (id : Int) (plain : String) : String :=
  toString id ++ String.singleton '|' ++ plain

variable (P : Platform)

/-- `issue_token`. -/
def issueToken (userId : Int) (name : String) (abilities : Option String) :
    AuthResult String String := do
  let plain ← generatePlainToken
  let id ← mapErr (fun e : SqlxError => "failed to insert token: " ++ e.toText)
    (authQuery (.insertToken
      { tokenableType := TOKENABLE_TYPE
        tokenableId := userId
        name
        token := P.sha256Hex plain
        abilities }))
  return tokenText id plain

/-- The id and the digest that `verify_token` looks up. -/
def parseToken (token : String) : Option (Int × String) := do
  let (idStr, plain) ← Text.splitOnce token '|'
  let id ← Text.parseI64 idStr
  some (id, P.sha256Hex plain)

/-- `verify_token`. -/
def verifyToken (token : String) : AuthResult String (Option PersonalAccessToken) :=
  match parseToken P token with
  | none => return none
  | some (id, tokenHash) =>
    mapErr (fun e : SqlxError => "failed to query token: " ++ e.toText)
      (authQuery (.findToken id tokenHash))

/-- `revoke_token`. -/
def revokeToken (id : Int) : AuthResult String Unit := do
  let _ ← mapErr (fun e : SqlxError => "failed to delete token: " ++ e.toText)
    (authQuery (.deleteToken id))

/-- `revoke_all_for_user`. -/
def revokeAllForUser (userId : Int) : AuthResult String Unit := do
  let _ ← mapErr (fun e : SqlxError => "failed to delete tokens for user: " ++ e.toText)
    (authQuery (.deleteTokensOf userId TOKENABLE_TYPE))

/-- `find_by_id`. -/
def findUserById (id : Int) : AuthResult String (Option User) :=
  mapErr (fun e : SqlxError => "failed to find user by id: " ++ e.toText)
    (authQuery (.findUserById id))

/-- The headers that the handlers read, where they are printable ASCII. -/
structure Headers where
  authorization : Option String := none
  forwardedFor : Option String := none
  userAgent : Option String := none
  deriving DecidableEq

/-- The bearer token of a request: the shared checks of the `Principal`
extractor and of `extract_bearer_token`. -/
def bearerToken (headers : Headers) : Except AppError String := do
  let authHeader ← okOr (.unauthorized "missing authorization header") headers.authorization
  let token ← okOr (.unauthorized "invalid authorization scheme")
    (Text.stripLeading authHeader "Bearer ")
  if token.isEmpty then throw (.unauthorized "empty bearer token")
  return token

/-- `Principal::from_request_parts`. -/
def principalFromRequestParts (headers : Headers) : AuthResult AppError Principal :=
  match bearerToken headers with
  | .error e => throw e
  | .ok token => do
    match ← mapErr (fun _ => AppError.internal "token verification failed")
        (verifyToken P token) with
    | none => throw (.unauthorized "invalid or expired token")
    | some record =>
      match ← mapErr (fun _ => AppError.internal "user lookup failed")
          (findUserById record.tokenableId) with
      | none => throw (.unauthorized "user not found")
      | some user => return ⟨user.id, user.role⟩

end KlassGateway.Auth
