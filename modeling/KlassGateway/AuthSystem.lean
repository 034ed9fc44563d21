import KlassGateway.Api.Auth
import KlassGateway.System
/-!
# Requests for authentication, side by side

The authentication handlers as a pool of programs: requests arrive in any order
and interleave statement by statement, and the other application inserts tokens
of its own.

A task carries an `AuthLabel`: the request, and the stage that its handler has
reached with the answers so far.
-/

namespace KlassGateway.Auth

open Lib Lib.Prog

/-- A request. -/
inductive AuthRequest where
  | register (body : RegisterRequest)
  | login (headers : Headers) (body : LoginRequest)
  | logout (headers : Headers)
  | refresh (headers : Headers)
  | resetPassword (body : VerifyAndResetPasswordRequest)
  deriving DecidableEq

/-- What a new token is issued for. -/
inductive Grant where
  | registration (user : User)
  /-- A login whose password the row verified. -/
  | password (user : User)
  /-- A refresh of the token of this row. -/
  | exchange (row : PersonalAccessToken) (user : User)

namespace Grant

/-- The user of the new token. -/
def userId : Grant → Int
  | registration user => user.id
  | password user => user.id
  | exchange _ user => user.id

/-- The response with the new token. -/
def response (token : String) : Grant → Response
  | registration user => createdWithMessage "registered successfully" (.auth user.toResource token)
  | password user => okWithMessage "logged in successfully" (.auth user.toResource token)
  | exchange _ _ => okWithMessage "token refreshed" (.tokenOnly token)

end Grant

/-- How far a handler is. -/
inductive Stage where
  | started
  /-- The lookup by e-mail has found nothing. -/
  | absent
  /-- The lookup by e-mail has found a row. -/
  | account (user : User)
  | hashed (hash : String)
  | created (user : User)
  | rehashed (user : User) (hash : String)
  | updated (user : User) (hash : String)
  | revoked (user : User) (hash : String)
  /-- The first check of the token has found its row. -/
  | presented (row : PersonalAccessToken)
  | identified (row : PersonalAccessToken) (user : User)
  /-- The second check has found the row. -/
  | confirmed (row : PersonalAccessToken) (user : User)
  /-- The `DELETE` of the token has been executed. -/
  | removed (row : PersonalAccessToken) (user : User)
  | drawn (grant : Grant) (plain : String)
  | issued (grant : Grant) (id : Int) (plain : String)
  /-- Only a refusal is left. -/
  | ended
  /-- The response has been sent. -/
  | replied

namespace Stage

/-- The stage after a call. -/
def after (stage : Stage) (o : AuthOperation) (r : o.Resp) : Stage :=
  match o, r, stage with
  | .query (.findUserByEmail _), .ok none, _ => .absent
  | .query (.findUserByEmail _), .ok (some user), _ => .account user
  | .hashPassword _, .ok hash, .absent => .hashed hash
  | .hashPassword _, .ok hash, .account user => .rehashed user hash
  | .query (.insertUser _), .ok user, _ => .created user
  | .query (.updatePassword _ _), .ok _, .rehashed user hash => .updated user hash
  | .query (.deleteTokensOf _ _), .ok _, .updated user hash => .revoked user hash
  | .query (.findToken _ _), .ok (some row), .started => .presented row
  | .query (.findUserById _), .ok (some user), .presented row => .identified row user
  | .query (.findToken _ _), .ok (some row), .identified _ user => .confirmed row user
  | .query (.deleteToken _), .ok _, .confirmed row user => .removed row user
  | .generatePlainToken, plain, .created user => .drawn (.registration user) plain
  | .generatePlainToken, plain, .account user => .drawn (.password user) plain
  | .generatePlainToken, plain, .removed row user => .drawn (.exchange row user) plain
  | .query (.insertToken _), .ok id, .drawn grant plain => .issued grant id plain
  | .reply _, _, _ => .replied
  | _, _, _ => .ended

end Stage

/-- What is known about a task from outside. -/
structure AuthLabel where
  request : AuthRequest
  stage : Stage := .started

namespace AuthLabel

/-- The label after a call. -/
def after (l : AuthLabel) (o : AuthOperation) (r : o.Resp) : AuthLabel :=
  { l with stage := l.stage.after o r }

@[simp] theorem after_request (l : AuthLabel) (o : AuthOperation) (r : o.Resp) :
    (l.after o r).request = l.request := rfl

end AuthLabel

variable (A : AuthState)

/-- The handler of a request. -/
def handler : AuthRequest → AuthResult Api.AppError Response
  | .register body => register A body
  | .login headers body => login A headers body
  | .logout headers => logout A headers
  | .refresh headers => refresh A headers
  | .resetPassword body => verifyAndResetPassword A body

/-- A request as a task: the handler runs, and its response is sent. -/
def serve (request : AuthRequest) : AuthProg Unit := do
  let response ← attempt (handler A request)
  reply response

/-- What may arrive. -/
inductive AuthArrival where
  | request (request : AuthRequest)
  /-- The other application inserts a token. -/
  | foreignToken (data : NewToken) (expiresAt : Option DateTime)

/-- What an arrival does to the tables and which task it starts. -/
def authArrive (w : AuthWorld) : AuthArrival → Option (AuthWorld × List (AuthLabel × AuthProg Unit))
  | .request request => some (w, [({ request }, serve A request)])
  | .foreignToken data expiresAt => some ({ w with db := w.db.addForeign data expiresAt }, [])

/-- The handlers as a pool. -/
def authSystem : Pool authEffects :=
  { authMachine A.passwords with
    Label := AuthLabel
    Arrival := AuthArrival
    relabel := AuthLabel.after
    arrive := authArrive A }

variable {A}

theorem spawned_of_authArrive {w w' : AuthWorld} {arr : AuthArrival}
    {spawned : List (AuthLabel × AuthProg Unit)} (h : authArrive A w arr = some (w', spawned))
    {l : AuthLabel} {p : AuthProg Unit} (hlp : (l, p) ∈ spawned) :
    l = { request := l.request } ∧ p = serve A l.request := by
  cases arr with
  | request request =>
    cases h
    obtain ⟨rfl, rfl⟩ := Prod.mk.inj (List.mem_singleton.1 hlp)
    exact ⟨rfl, rfl⟩
  | foreignToken data expiresAt =>
    cases h
    cases hlp

/-! ## What a statement can do to the tokens -/

namespace AuthQuery

/-- The tokens after a statement: as they were, with a new one, or without the
deleted ones. -/
theorem exec_tokens (db : AuthDatabase) (q : AuthQuery) :
    ((q.exec db).2.tokens = db.tokens ∧
      db.tokenSequence ≤ (q.exec db).2.tokenSequence) ∨
    (∃ data, q = .insertToken data ∧ db.insertTokenFault data = none ∧
      (q.exec db).2.tokens = db.tokens ++ [db.newToken data none] ∧
      (q.exec db).2.tokenSequence = db.tokenSequence + 1) ∨
    (∃ id, q = .deleteToken id ∧
      (q.exec db).2.tokens = db.tokens.filter (fun t => !(t.id == id)) ∧
      (q.exec db).2.tokenSequence = db.tokenSequence) ∨
    (∃ userId type, q = .deleteTokensOf userId type ∧
      (q.exec db).2.tokens =
        db.tokens.filter (fun t => !(t.tokenableId == userId && t.tokenableType == type)) ∧
      (q.exec db).2.tokenSequence = db.tokenSequence) := by
  cases q with
  | insertToken data =>
    cases hf : db.insertTokenFault data with
    | none =>
      refine .inr (.inl ⟨data, rfl, hf, ?_, ?_⟩)
      · simp only [exec, AuthDatabase.insertToken, hf]
      · simp only [exec, AuthDatabase.insertToken, hf]
    | some e =>
      refine .inl ⟨?_, ?_⟩
      · simp only [exec, AuthDatabase.insertToken, hf]
      · simp only [exec, AuthDatabase.insertToken, hf]
        exact Nat.le_succ _
  | deleteToken id => exact .inr (.inr (.inl ⟨id, rfl, rfl, rfl⟩))
  | deleteTokensOf userId type => exact .inr (.inr (.inr ⟨userId, type, rfl, rfl, rfl⟩))
  | findUserByEmail email =>
    refine .inl ?_
    simp only [exec]
    split <;> exact ⟨rfl, Nat.le_refl _⟩
  | insertUser data =>
    refine .inl ?_
    simp only [exec, AuthDatabase.insertUser]
    split <;> exact ⟨rfl, Nat.le_refl _⟩
  | updatePassword id hash =>
    refine .inl ?_
    simp only [exec, AuthDatabase.updatePassword]
    split <;> exact ⟨rfl, Nat.le_refl _⟩
  | _ => exact .inl ⟨rfl, Nat.le_refl _⟩

end AuthQuery

/-! ## What a statement can do to the users -/

namespace AuthQuery

/-- The users after a statement: as they were, with a new one, or with another
password of one. -/
theorem exec_users (db : AuthDatabase) (q : AuthQuery) :
    (q.exec db).2.users = db.users ∨
    (∃ data, q = .insertUser data ∧ db.insertUserFault data = none ∧
      (q.exec db).2.users = db.users ++ [db.newUser data]) ∨
    (∃ id hash, q = .updatePassword id hash ∧ (q.exec db).2.users =
      Table.modify User.id id (fun u => { u with password := hash }) db.users) := by
  cases q with
  | insertUser data =>
    cases hf : db.insertUserFault data with
    | none =>
      refine .inr (.inl ⟨data, rfl, hf, ?_⟩)
      simp only [exec, AuthDatabase.insertUser, hf]
    | some e =>
      refine .inl ?_
      simp only [exec, AuthDatabase.insertUser, hf]
  | updatePassword id hash =>
    simp only [exec, AuthDatabase.updatePassword]
    split
    · exact .inl rfl
    · exact .inr (.inr ⟨id, hash, rfl, rfl⟩)
  | findUserByEmail email =>
    refine .inl ?_
    simp only [exec]
    split <;> rfl
  | insertToken data =>
    refine .inl ?_
    simp only [exec, AuthDatabase.insertToken]
    split <;> rfl
  | _ => exact .inl rfl

/-- A user with an e-mail address stays, with its password unless a statement
replaces it. -/
theorem exec_userByEmail {db : AuthDatabase} {email : String} {u : User}
    (h : db.userByEmail email = some u) (q : AuthQuery) :
    (q.exec db).2.userByEmail email = some u ∨
    ∃ hash, q = .updatePassword u.id hash ∧
      (q.exec db).2.userByEmail email = some { u with password := hash } := by
  unfold AuthDatabase.userByEmail at h ⊢
  obtain hsame | ⟨data, _, _, husers⟩ | ⟨id, hash, rfl, husers⟩ := q.exec_users db
  · rw [hsame]
    exact .inl h
  · rw [husers, Table.find_append, h]
    exact .inl rfl
  · rw [husers, Table.find_modify_of_key (f := fun u : User => { u with password := hash })
      (fun _ => rfl), h]
    by_cases hid : u.id = id
    · subst hid
      exact .inr ⟨hash, rfl, by simp⟩
    · exact .inl (by simp [hid])

end AuthQuery

/-- The ids of tokens are distinct and come from the sequence. -/
structure TokenIds (db : AuthDatabase) : Prop where
  drawn : ∀ t ∈ db.tokens, t.id ≤ db.tokenSequence
  nodup : (db.tokens.map PersonalAccessToken.id).Nodup

/-- Whatever row has the id, now or later, meets `p`. -/
structure AllUnder (id : Int) (p : PersonalAccessToken → Prop) (db : AuthDatabase) : Prop where
  rows : ∀ t ∈ db.tokens, t.id = id → p t
  drawn : id ≤ db.tokenSequence

/-- An id that will not have a row again. -/
structure Spent (id : Int) (db : AuthDatabase) : Prop where
  absent : ∀ t ∈ db.tokens, t.id ≠ id
  drawn : id ≤ db.tokenSequence

theorem spent_iff {id : Int} {db : AuthDatabase} : Spent id db ↔ AllUnder id (fun _ => False) db :=
  ⟨fun h => ⟨fun t ht hid => h.absent t ht hid, h.drawn⟩,
    fun h => ⟨fun t ht hid => h.rows t ht hid, h.drawn⟩⟩

section Tokens

variable {id : Int} {p : PersonalAccessToken → Prop} {db : AuthDatabase}

/-- An inserted row has an id of its own. -/
theorem AllUnder.insert (h : AllUnder id p db) {row : PersonalAccessToken}
    (hrow : row.id = db.tokenSequence + 1) {db' : AuthDatabase}
    (htokens : db'.tokens = db.tokens ++ [row]) (hseq : db'.tokenSequence = db.tokenSequence + 1) :
    AllUnder id p db' := by
  have hdrawn := h.drawn
  refine ⟨fun t ht hid => ?_, by omega⟩
  rw [htokens] at ht
  obtain ht | ht := List.mem_append.1 ht
  · exact h.rows t ht hid
  · obtain rfl := List.mem_singleton.1 ht
    omega

theorem AllUnder.exec (h : AllUnder id p db) (q : AuthQuery) : AllUnder id p (q.exec db).2 := by
  obtain ⟨htokens, hseq⟩ | ⟨data, _, _, htokens, hseq⟩ | ⟨_, _, htokens, hseq⟩ |
    ⟨_, _, _, htokens, hseq⟩ := q.exec_tokens db
  · refine ⟨fun t ht => h.rows t (htokens ▸ ht), ?_⟩
    have hdrawn := h.drawn
    omega
  · exact h.insert rfl htokens hseq
  · refine ⟨fun t ht => ?_, hseq ▸ h.drawn⟩
    rw [htokens] at ht
    exact h.rows t (List.mem_filter.1 ht).1
  · refine ⟨fun t ht => ?_, hseq ▸ h.drawn⟩
    rw [htokens] at ht
    exact h.rows t (List.mem_filter.1 ht).1

theorem AllUnder.addForeign (h : AllUnder id p db) (data : NewToken) (expiresAt : Option DateTime) :
    AllUnder id p (db.addForeign data expiresAt) := by
  unfold AuthDatabase.addForeign AuthDatabase.insertToken
  split
  · have hdrawn := h.drawn
    exact ⟨h.rows, by change id ≤ ((db.tokenSequence + 1 : Nat) : Int); omega⟩
  · exact h.insert rfl rfl rfl

theorem Spent.exec (h : Spent id db) (q : AuthQuery) : Spent id (q.exec db).2 :=
  spent_iff.2 ((spent_iff.1 h).exec q)

theorem Spent.addForeign (h : Spent id db) (data : NewToken) (expiresAt : Option DateTime) :
    Spent id (db.addForeign data expiresAt) :=
  spent_iff.2 ((spent_iff.1 h).addForeign data expiresAt)

/-- With distinct ids whatever holds of a row holds of every row under its id. -/
theorem TokenIds.allUnder (h : TokenIds db) {row : PersonalAccessToken} (hmem : row ∈ db.tokens)
    (hp : p row) : AllUnder row.id p db := by
  refine ⟨fun t ht hid => ?_, h.drawn row hmem⟩
  have hrow := Table.find_of_mem h.nodup hmem
  have htrow := Table.find_of_mem h.nodup ht
  rw [hid, hrow] at htrow
  cases htrow
  exact hp

theorem TokenIds.insert (h : TokenIds db) {row : PersonalAccessToken}
    (hrow : row.id = db.tokenSequence + 1) {db' : AuthDatabase}
    (htokens : db'.tokens = db.tokens ++ [row]) (hseq : db'.tokenSequence = db.tokenSequence + 1) :
    TokenIds db' := by
  refine ⟨fun t ht => ?_, ?_⟩
  · rw [htokens] at ht
    obtain ht | ht := List.mem_append.1 ht
    · have hdrawn := h.drawn t ht
      omega
    · obtain rfl := List.mem_singleton.1 ht
      omega
  · rw [htokens, List.map_append, List.nodup_append]
    refine ⟨h.nodup, List.nodup_singleton _, fun a ha b hb he => ?_⟩
    obtain ⟨t, ht, rfl⟩ := List.mem_map.1 ha
    obtain rfl := List.mem_singleton.1 hb
    have hdrawn := h.drawn t ht
    omega

theorem TokenIds.of_filter (h : TokenIds db) {keep : PersonalAccessToken → Bool} {db' : AuthDatabase}
    (htokens : db'.tokens = db.tokens.filter keep) (hseq : db'.tokenSequence = db.tokenSequence) :
    TokenIds db' := by
  refine ⟨fun t ht => ?_, ?_⟩
  · rw [htokens] at ht
    rw [hseq]
    exact h.drawn t (List.mem_filter.1 ht).1
  · rw [htokens]
    exact h.nodup.sublist (List.Sublist.map _ List.filter_sublist)

theorem TokenIds.exec (h : TokenIds db) (q : AuthQuery) : TokenIds (q.exec db).2 := by
  obtain ⟨htokens, hseq⟩ | ⟨data, _, _, htokens, hseq⟩ | ⟨_, _, htokens, hseq⟩ |
    ⟨_, _, _, htokens, hseq⟩ := q.exec_tokens db
  · refine ⟨fun t ht => ?_, htokens ▸ h.nodup⟩
    have hdrawn := h.drawn t (htokens ▸ ht)
    omega
  · exact h.insert rfl htokens hseq
  · exact h.of_filter htokens hseq
  · exact h.of_filter htokens hseq

theorem TokenIds.addForeign (h : TokenIds db) (data : NewToken) (expiresAt : Option DateTime) :
    TokenIds (db.addForeign data expiresAt) := by
  unfold AuthDatabase.addForeign AuthDatabase.insertToken
  split
  · refine ⟨fun t ht => ?_, h.nodup⟩
    have hdrawn := h.drawn t ht
    show t.id ≤ ((db.tokenSequence + 1 : Nat) : Int)
    omega
  · exact h.insert rfl rfl rfl

end Tokens

/-- The tables of a world are so. -/
def AuthWorld.Tables (Inv : AuthDatabase → Prop) (w : AuthWorld) : Prop := Inv w.db

/-- A property of the tables that every statement and every foreign token keeps
holds in every state reached. -/
theorem db_of_reach {Inv : AuthDatabase → Prop} (hexec : ∀ db q, Inv db → Inv (AuthQuery.exec db q).2)
    (hforeign : ∀ db data expiresAt, Inv db → Inv (AuthDatabase.addForeign db data expiresAt))
    {ok : (authSystem A).State → (authSystem A).Action → Prop} {s s' : (authSystem A).State}
    (h : Pool.Reach ok s s') (hs : Inv (AuthWorld.db s.world)) : Inv (AuthWorld.db s'.world) := by
  have hstart : AuthWorld.Tables Inv s.world := hs
  refine h.world_invariant (fun s arr w spawned _ harr hs => ?_) (fun s i c l o k _ _ hs => ?_) hstart
  · cases arr with
    | request request =>
      cases harr
      exact hs
    | foreignToken data expiresAt =>
      cases harr
      exact hforeign _ data expiresAt hs
  · show Inv (AuthOperation.exec A.passwords s.world o c).2.db
    obtain hdb | ⟨q, _, hdb⟩ := AuthOperation.exec_db A.passwords s.world c o
    · rw [hdb]
      exact hs
    · rw [hdb]
      exact hexec _ q hs

theorem AllUnder.of_reach {ok : (authSystem A).State → (authSystem A).Action → Prop} {id : Int}
    {p : PersonalAccessToken → Prop} {s s' : (authSystem A).State} (h : Pool.Reach ok s s')
    (hs : AllUnder id p (AuthWorld.db s.world)) : AllUnder id p (AuthWorld.db s'.world) :=
  db_of_reach (fun _ q hdb => hdb.exec q) (fun _ data expiresAt hdb => hdb.addForeign data expiresAt)
    h hs

/-- An id that will not have a row again never gets one. -/
theorem Spent.of_reach {ok : (authSystem A).State → (authSystem A).Action → Prop} {id : Int}
    {s s' : (authSystem A).State} (h : Pool.Reach ok s s') (hs : Spent id (AuthWorld.db s.world)) :
    Spent id (AuthWorld.db s'.world) :=
  spent_iff.2 (AllUnder.of_reach h (spent_iff.1 hs))

theorem TokenIds.of_reach {ok : (authSystem A).State → (authSystem A).Action → Prop}
    {s s' : (authSystem A).State} (h : Pool.Reach ok s s') (hs : TokenIds (AuthWorld.db s.world)) :
    TokenIds (AuthWorld.db s'.world) :=
  db_of_reach (fun _ q hdb => hdb.exec q) (fun _ data expiresAt hdb => hdb.addForeign data expiresAt)
    h hs

/-! ## Handlers for concrete histories

Two tokens with their digests, and a hash that keeps the password readable. -/

/-- A hash in clear text. -/
def clearPasswords : Passwords where
  argon2Hash plain _ := "$argon2id$" ++ plain
  verifyArgon2 plain hash := hash == "$argon2id$" ++ plain
  verifyBcrypt _ _ := false

theorem exact_clearPasswords : clearPasswords.Exact where
  header plain salt := by
    show List.isPrefixOf "$argon2".toList ("$argon2id$" ++ plain).toList = true
    rw [List.isPrefixOf_iff_prefix, String.toList_append]
    exact ⟨"id$".toList ++ plain.toList, by simp⟩
  verify plain plain' salt := by
    show ("$argon2id$" ++ plain == "$argon2id$" ++ plain') = true ↔ _
    rw [beq_iff_eq]
    constructor
    · intro h
      have hlists := congrArg String.toList h
      rw [String.toList_append, String.toList_append, List.append_cancel_left_eq] at hlists
      exact (String.toList_injective hlists).symm
    · rintro rfl
      rfl

/-- The second part of a token. -/
def samplePlain : String := "6f1ed002ab5595859014ebf0951522d9e4da3b7fffb8a2c6f6e4d9c5a1b2c3d4"

/-- Its digest. -/
def sampleDigest : String := "4c46eb76c565dbcfd384442f6bd21bc96a738cb590dd61632061c6c876fdbc49"

/-- The second part of another token. -/
def otherPlain : String := "0b7c4e1f9a8d4c2e8f3a5d6b7c8e9f10a1b2c3d4e5f60718293a4b5c6d7e8f90"

/-- Its digest. -/
def otherDigest : String := "23d01eb7da922029e3bfc4b338eb5fb44d770a5a5a4863edc1084972045a859f"

/-- The handlers with these functions. -/
def sampleAuth : AuthState where
  platform := { asciiPlatform with
    sha256Hex := fun s =>
      if s = samplePlain then sampleDigest else if s = otherPlain then otherDigest else s }
  passwords := clearPasswords

/-- A user. -/
def sampleUser : User :=
  { id := 7
    name := "Ani"
    email := "ani@example.com"
    password := "$argon2id$password1"
    role := "teacher" }

/-- A token of that user. -/
def sampleToken (expiresAt : Option DateTime) : PersonalAccessToken :=
  { id := 1
    tokenableType := TOKENABLE_TYPE
    tokenableId := 7
    name := "auth"
    token := sampleDigest
    expiresAt }

/-- The tables with both. -/
def sampleAuthWorld (expiresAt : Option DateTime) : AuthWorld :=
  { db :=
    { users := [sampleUser]
      tokens := [sampleToken expiresAt]
      userSequence := 7
      tokenSequence := 1 } }

theorem tokenIds_sampleAuthWorld (expiresAt : Option DateTime) :
    TokenIds (sampleAuthWorld expiresAt).db := by
  refine ⟨fun t ht => ?_, List.nodup_singleton _⟩
  obtain rfl := List.mem_singleton.1 ht
  exact Int.le_refl _

/-- Calls that succeed and draw the plain texts one after the other. -/
def drawing (plainToken : String) : AuthChoice := { plainToken }

/-- The next `n` calls of task `i`. -/
def authCalls (i n : Nat) (plainToken : String) : List ((authSystem sampleAuth).Action) :=
  List.replicate n (.act i (drawing plainToken))

/-- The response that a task is about to send. -/
def replyAt (s : (authSystem sampleAuth).State) (i : Nat) :
    Option (AuthRequest × Except Api.AppError Response) :=
  match s.tasks i with
  | some ⟨l, .op (.reply response) _⟩ => some (AuthLabel.request l, response)
  | _ => none

end KlassGateway.Auth
