import KlassGateway.Api.Handlers
import KlassGateway.Auth.Password
import KlassGateway.Auth.Store
/-!
# The calls of the authentication handlers

The interface of the handlers in `api/rest/auth.rs`: the statements on the two
tables, the random values that they draw, and the response that they send.
`authMachine` gives the calls their meaning.  As with the gateway's own calls,
what a call gets from outside is the choice made at it, and every statement may
fail before it takes effect or lose its reply after it.
-/

namespace KlassGateway.Auth

open Lib Lib.Prog Api

/-- `UserResource`. -/
structure UserResource where
  id : Int
  name : String
  email : String
  avatarUrl : Option String
  role : String
  primarySubjectId : Option Int
  deriving DecidableEq

namespace User

/-- `UserResource::from`. -/
def toResource (u : User) : UserResource where
  id := u.id
  name := u.name
  email := u.email
  avatarUrl := u.avatarUrl
  role := u.role
  primarySubjectId := u.primarySubjectId

end User

/-- The data of a response: `AuthData`, `TokenOnlyData` or `MessageData`. -/
inductive ResponseData where
  | auth (user : UserResource) (token : String)
  | tokenOnly (token : String)
  | message (message : String)
  deriving DecidableEq

namespace ResponseData

/-- The token that the client gets. -/
def token : ResponseData → Option String
  | auth _ token => some token
  | tokenOnly token => some token
  | message _ => none

end ResponseData

/-- A successful response. -/
structure Response where
  status : Nat
  message : String
  data : ResponseData
  deriving DecidableEq

/-- `response::ok_with_message`. -/
def okWithMessage (message : String) (data : ResponseData) : Response := ⟨200, message, data⟩

/-- `response::created_with_message`. -/
def createdWithMessage (message : String) (data : ResponseData) : Response := ⟨201, message, data⟩

/-- The atomic calls. -/
inductive AuthOperation where
  | query (q : AuthQuery)
  /-- `Utc::now()`. -/
  | now
  /-- `Uuid::new_v4()`. -/
  | newUuid
  /-- `generate_plain_token`. -/
  | generatePlainToken
  /-- `hash_password`, which draws a salt. -/
  | hashPassword (plain : String)
  /-- The response goes to the client. -/
  | reply (response : Except AppError Response)

namespace AuthOperation

/-- The answer of a call. -/
def Resp : AuthOperation → Type
  | query q => Except SqlxError q.Resp
  | now => DateTime
  | newUuid => Uuid
  | generatePlainToken => String
  | hashPassword _ => Except String String
  | reply _ => Unit

end AuthOperation

/-- The interface of the handlers. -/
def authEffects : Interface := ⟨AuthOperation, AuthOperation.Resp⟩

/-- What a call gets from outside. -/
structure AuthChoice where
  fault : Fault := .none
  clock : DateTime := 0
  plainToken : String := ""
  salt : Except String String := .ok ""

/-- The tables and the ids drawn so far. -/
structure AuthWorld where
  db : AuthDatabase := {}
  nextUuid : Nat := 0

namespace AuthOperation

/-- Run a call. -/
def exec (H : Passwords) (w : AuthWorld) : (o : AuthOperation) → AuthChoice → o.Resp × AuthWorld
  | query q, c =>
    let (answer, db) := withFault .other c.fault w.db (q.exec w.db)
    (answer, { w with db })
  | now, c => (c.clock, w)
  | newUuid, _ => (⟨w.nextUuid⟩, { w with nextUuid := w.nextUuid + 1 })
  | generatePlainToken, c => (c.plainToken, w)
  | hashPassword plain, c => (c.salt.map (H.argon2Hash plain), w)
  | reply _, _ => ((), w)

/-- The tables after a call: as they were, or as a statement leaves them. -/
theorem exec_db (H : Passwords) (w : AuthWorld) (c : AuthChoice) (o : AuthOperation) :
    (o.exec H w c).2.db = w.db ∨
    ∃ q, o = .query q ∧ (o.exec H w c).2.db = (q.exec w.db).2 := by
  cases o with
  | query q =>
    simp only [exec, withFault]
    cases c.fault with
    | none => exact .inr ⟨q, rfl, rfl⟩
    | failed m => exact .inl rfl
    | lost m => exact .inr ⟨q, rfl, rfl⟩
  | _ => exact .inl rfl

/-- A statement without a fault. -/
theorem exec_query {H : Passwords} {w : AuthWorld} {c : AuthChoice} (hc : c.fault = .none)
    (q : AuthQuery) :
    exec H w (.query q) c = ((q.exec w.db).1, { w with db := (q.exec w.db).2 }) := by
  simp only [exec, withFault, hc]
  rfl

/-- A statement that answers has answered from the tables, and they are as it
leaves them. -/
theorem exec_query_ok {H : Passwords} {w : AuthWorld} {c : AuthChoice} {q : AuthQuery} {a : q.Resp}
    (h : (exec H w (.query q) c).1 = .ok a) :
    (q.exec w.db).1 = .ok a ∧ (exec H w (.query q) c).2.db = (q.exec w.db).2 := by
  simp only [exec, withFault] at h ⊢
  cases hf : c.fault with
  | none =>
    rw [hf] at h
    exact ⟨h, rfl⟩
  | failed m =>
    rw [hf] at h
    cases h
  | lost m =>
    rw [hf] at h
    cases h

end AuthOperation

/-- The machine that runs the handlers. -/
def authMachine (H : Passwords) : Machine authEffects := ⟨AuthWorld, AuthChoice, AuthOperation.exec H⟩

/-! ## Calls as programs -/

/-- A program of the handlers. -/
abbrev AuthProg (α : Type) := Prog authEffects α

/-- A program of the handlers with an error. -/
abbrev AuthResult (ε α : Type) := Fallible authEffects ε α

/-- A statement. -/
def authQuery (q : AuthQuery) : AuthResult SqlxError q.Resp :=
  ExceptT.mk (perform (I := authEffects) (.query q))

/-- `Utc::now()`. -/
def authNow : AuthProg DateTime := perform (I := authEffects) .now

/-- `Uuid::new_v4()`. -/
def authNewV4 : AuthProg Uuid := perform (I := authEffects) .newUuid

/-- `generate_plain_token`: 64 random hexadecimal digits. -/
def generatePlainToken : AuthProg String := perform (I := authEffects) .generatePlainToken

/-- `hash_password`. -/
def hashPassword (plain : String) : AuthResult String String :=
  ExceptT.mk (perform (I := authEffects) (.hashPassword plain))

/-- Send the response. -/
def reply (response : Except AppError Response) : AuthProg Unit :=
  perform (I := authEffects) (.reply response)

section Rules

variable {St : Type} {spec : OpSpec authEffects St} {s : St}

@[simp] theorem wp_authQuery (q : AuthQuery) (Q : Except SqlxError q.Resp → St → Prop) :
    (authQuery q).run.wp spec Q s ↔
      spec.pre s (.query q) ∧ ∀ r s', spec.step s (.query q) r s' → Q r s' := Iff.rfl

@[simp] theorem wp_generatePlainToken (Q : String → St → Prop) :
    generatePlainToken.wp spec Q s ↔
      spec.pre s .generatePlainToken ∧
        ∀ r s', spec.step s .generatePlainToken r s' → Q r s' := Iff.rfl

@[simp] theorem wp_hashPassword (plain : String) (Q : Except String String → St → Prop) :
    (hashPassword plain).run.wp spec Q s ↔
      spec.pre s (.hashPassword plain) ∧
        ∀ r s', spec.step s (.hashPassword plain) r s' → Q r s' := Iff.rfl

@[simp] theorem wp_reply (response : Except AppError Response) (Q : Unit → St → Prop) :
    (reply response).wp spec Q s ↔
      spec.pre s (.reply response) ∧ ∀ r s', spec.step s (.reply response) r s' → Q r s' :=
  Iff.rfl

end Rules

/-! ## Programs that run alone -/

/-- Run a program alone with one choice for all calls. -/
def runAlone {α : Type} (H : Passwords) (c : AuthChoice) (p : AuthProg α) (w : AuthWorld) :
    Option α × AuthWorld := p.runWith (authMachine H) c w

section RunAlone

variable {α β ε ε' : Type} {H : Passwords} {c : AuthChoice}

theorem runAlone_run_bind (p : AuthResult ε α) (f : α → AuthResult ε β) (w : AuthWorld) :
    runAlone H c (p >>= f).run w =
      match runAlone H c p.run w with
      | (some (.ok a), w') => runAlone H c (f a).run w'
      | (some (.error e), w') => (some (.error e), w')
      | (none, w') => (none, w') := by
  refine (runWith_run_bind (M := authMachine H) (c := c) p f w).trans ?_
  unfold runAlone
  rcases p.run.runWith (authMachine H) c w with ⟨_ | _ | _, w'⟩ <;> rfl

/-- After a success the rest runs. -/
theorem runAlone_run_bind_ok {p : AuthResult ε α} {f : α → AuthResult ε β} {w w' : AuthWorld}
    {a : α} (h : runAlone H c p.run w = (some (.ok a), w')) :
    runAlone H c (p >>= f).run w = runAlone H c (f a).run w' := by
  rw [runAlone_run_bind, h]

theorem runAlone_run_mapErr (f : ε → ε') (p : AuthResult ε α) (w : AuthWorld) :
    runAlone H c (mapErr f p).run w =
      ((runAlone H c p.run w).1.map (Except.mapError f), (runAlone H c p.run w).2) :=
  runWith_run_mapErr (M := authMachine H) (c := c) f p w

/-- A statement that does not fail. -/
theorem runAlone_authQuery (hc : c.fault = .none) (q : AuthQuery) (w : AuthWorld) :
    runAlone H c (authQuery q).run w =
      (some (q.exec w.db).1, { w with db := (q.exec w.db).2 }) := by
  show (some (AuthOperation.exec H w (.query q) c).1, (AuthOperation.exec H w (.query q) c).2) = _
  rw [AuthOperation.exec_query hc]
  rfl

/-- A statement whose error is rewritten. -/
theorem runAlone_statement (hc : c.fault = .none) (f : SqlxError → ε) (q : AuthQuery)
    (w : AuthWorld) :
    runAlone H c (mapErr f (authQuery q)).run w =
      (some ((q.exec w.db).1.mapError f), { w with db := (q.exec w.db).2 }) := by
  rw [runAlone_run_mapErr, runAlone_authQuery hc]
  rfl

end RunAlone

end KlassGateway.Auth
