import KlassGateway.Db.Database
/-!
# Users and their tokens

Model of the tables `users` and `personal_access_tokens` and of the statements
of `db/repositories/users.rs` and `auth/tokens.rs` on them.  The second table
is shared with another application, which writes rows of its own
(`AuthDatabase.addForeign`).

A `DELETE` or an `UPDATE` answers with the number of rows that it changed.  The
source never looks at it.
-/

namespace KlassGateway.Auth

open Lib Db

/-- A row of `users`. -/
structure User where
  id : Int
  name : String
  email : String
  password : String
  avatarUrl : Option String := none
  primarySubjectId : Option Int := none
  role : String
  securityQuestion : Option String := none
  securityAnswer : Option String := none
  deriving DecidableEq

/-- A row of `personal_access_tokens`. -/
structure PersonalAccessToken where
  id : Int
  tokenableType : String
  tokenableId : Int
  name : String
  token : String
  abilities : Option String := none
  expiresAt : Option DateTime := none
  deriving DecidableEq

/-- A row of `activity_logs`. -/
structure ActivityLog where
  id : Uuid
  action : String
  metadata : Json

/-- The tables. -/
structure AuthDatabase where
  users : List User := []
  tokens : List PersonalAccessToken := []
  activityLogs : List ActivityLog := []
  /-- The last value of the sequence of `users`. -/
  userSequence : Nat := 0
  /-- The last value of the sequence of `personal_access_tokens`. -/
  tokenSequence : Nat := 0

/-- `InsertUser`. -/
structure InsertUser where
  name : String
  email : String
  password : String
  role : String

/-- The columns that `issue_token` inserts. -/
structure NewToken where
  tokenableType : String
  tokenableId : Int
  name : String
  token : String
  abilities : Option String

namespace AuthDatabase

/-- A row of `users` by its primary key. -/
def user (db : AuthDatabase) (id : Int) : Option User := Table.find User.id id db.users

/-- A row of `users` by its e-mail address. -/
def userByEmail (db : AuthDatabase) (email : String) : Option User :=
  Table.find User.email email db.users

/-- A row of `personal_access_tokens` by its primary key. -/
def token (db : AuthDatabase) (id : Int) : Option PersonalAccessToken :=
  Table.find PersonalAccessToken.id id db.tokens

/-- The unique violation of an index. -/
def duplicateKey (index : String) : SqlxError :=
  .database "23505" ("duplicate key value violates unique constraint \"" ++ index ++ "\"")

/-- The first text of a new user that its column rejects. -/
def userTextFault (data : InsertUser) : Option SqlxError :=
  (((Database.textFault (some 255) data.name).or (Database.textFault (some 255) data.email)).or
    (Database.textFault (some 255) data.password)).or (Database.textFault (some 50) data.role)

/-- What an `INSERT` into `users` fails with. -/
def insertUserFault (db : AuthDatabase) (data : InsertUser) : Option SqlxError :=
  (userTextFault data).or
    (if (db.userByEmail data.email).isSome then some (duplicateKey "idx_users_email") else none)

/-- The row that an `INSERT` into `users` makes. -/
def newUser (db : AuthDatabase) (data : InsertUser) : User :=
  { id := db.userSequence + 1
    name := data.name
    email := data.email
    password := data.password
    role := data.role }

/-- `INSERT` into `users`.  A failed one may have used up a value of the
sequence too. -/
def insertUser (db : AuthDatabase) (data : InsertUser) : Except SqlxError User × AuthDatabase :=
  match db.insertUserFault data with
  | some e => (.error e, { db with userSequence := db.userSequence + 1 })
  | none => (.ok (db.newUser data),
      { db with users := db.users ++ [db.newUser data], userSequence := db.userSequence + 1 })

/-- What an `INSERT` into `personal_access_tokens` fails with. -/
def insertTokenFault (db : AuthDatabase) (data : NewToken) : Option SqlxError :=
  ((((Database.textFault (some 255) data.tokenableType).or
    (Database.textFault none data.name)).or (Database.textFault (some 64) data.token)).or
    (data.abilities.bind (Database.textFault none))).or
    (if db.tokens.any (·.token == data.token) then
      some (duplicateKey "idx_personal_access_tokens_token") else none)

/-- The row that an `INSERT` into `personal_access_tokens` makes. -/
def newToken (db : AuthDatabase) (data : NewToken) (expiresAt : Option DateTime) :
    PersonalAccessToken :=
  { id := db.tokenSequence + 1
    tokenableType := data.tokenableType
    tokenableId := data.tokenableId
    name := data.name
    token := data.token
    abilities := data.abilities
    expiresAt }

/-- `INSERT` into `personal_access_tokens`. -/
def insertToken (db : AuthDatabase) (data : NewToken) (expiresAt : Option DateTime) :
    Except SqlxError Int × AuthDatabase :=
  match db.insertTokenFault data with
  | some e => (.error e, { db with tokenSequence := db.tokenSequence + 1 })
  | none => (.ok (db.newToken data expiresAt).id,
      { db with
        tokens := db.tokens ++ [db.newToken data expiresAt]
        tokenSequence := db.tokenSequence + 1 })

/-- The other application inserts a token, with any type and any expiry. -/
def addForeign (db : AuthDatabase) (data : NewToken) (expiresAt : Option DateTime) :
    AuthDatabase := (db.insertToken data expiresAt).2

/-- `DELETE` of the tokens that meet a condition, with their number. -/
def deleteTokens (db : AuthDatabase) (p : PersonalAccessToken → Bool) : Nat × AuthDatabase :=
  ((db.tokens.filter p).length, { db with tokens := db.tokens.filter fun t => !p t })

/-- `UPDATE` of the password under `id`, with the number of rows. -/
def updatePassword (db : AuthDatabase) (id : Int) (hash : String) :
    Except SqlxError Nat × AuthDatabase :=
  match Database.textFault (some 255) hash with
  | some e => (.error e, db)
  | none => (.ok (if (db.user id).isSome then 1 else 0),
      { db with users := Table.modify User.id id (fun u => { u with password := hash }) db.users })

end AuthDatabase

/-- The statements. -/
inductive AuthQuery where
  | findUserById (id : Int)
  | findUserByEmail (email : String)
  | insertUser (data : InsertUser)
  | updatePassword (id : Int) (hash : String)
  | insertToken (data : NewToken)
  /-- The `SELECT` of `verify_token`. -/
  | findToken (id : Int) (token : String)
  /-- The `DELETE` of `revoke_token`. -/
  | deleteToken (id : Int)
  /-- The `DELETE` of `revoke_all_for_user`. -/
  | deleteTokensOf (tokenableId : Int) (tokenableType : String)
  | insertActivityLog (log : ActivityLog)

namespace AuthQuery

/-- The value that a statement returns when it succeeds. -/
def Resp : AuthQuery → Type
  | findUserById _ => Option User
  | findUserByEmail _ => Option User
  | insertUser _ => User
  | updatePassword _ _ => Nat
  | insertToken _ => Int
  | findToken _ _ => Option PersonalAccessToken
  | deleteToken _ => Nat
  | deleteTokensOf _ _ => Nat
  | insertActivityLog _ => Unit

/-- Run a statement. -/
def exec (db : AuthDatabase) : (q : AuthQuery) → Except SqlxError q.Resp × AuthDatabase
  | findUserById id => (.ok (db.user id), db)
  | findUserByEmail email =>
    match Database.textFault none email with
    | some e => (.error e, db)
    | none => (.ok (db.userByEmail email), db)
  | insertUser data => db.insertUser data
  | updatePassword id hash => db.updatePassword id hash
  | insertToken data => db.insertToken data none
  | findToken id token =>
    (.ok (db.tokens.find? fun t => t.id == id && t.token == token), db)
  | deleteToken id =>
    let (count, db) := db.deleteTokens fun t => t.id == id
    (.ok count, db)
  | deleteTokensOf tokenableId tokenableType =>
    let (count, db) := db.deleteTokens fun t =>
      t.tokenableId == tokenableId && t.tokenableType == tokenableType
    (.ok count, db)
  | insertActivityLog log => (.ok (), { db with activityLogs := db.activityLogs ++ [log] })

end AuthQuery

end KlassGateway.Auth
