import KlassGateway.AuthSystem
/-!
# What the authentication handlers call

`MayCall` lists the calls of each handler at each stage, with the answers that
they depend on, and `follows_serve` says that the handlers make no other calls.
Facts about the pool are then proved from `MayCall` alone (`mayCall_of_reach`).
-/

namespace KlassGateway.Auth

open Lib Lib.Prog Api

variable (A : AuthState)

namespace AuthRequest

/-- The headers of a request that presents a token. -/
def presents : AuthRequest → Option Headers
  | .logout headers => some headers
  | .refresh headers => some headers
  | _ => none

/-- The id and the digest of the presented token. -/
def presentedToken (P : Platform) (request : AuthRequest) : Option (Int × String) :=
  request.presents.bind fun headers =>
    match bearerToken headers with
    | .ok token => parseToken P token
    | .error _ => none

/-- Whether a request is a registration. -/
def isRegister : AuthRequest → Bool
  | .register _ => true
  | _ => false

end AuthRequest

/-- The row that `issue_token` inserts. -/
def grantedToken (P : Platform) (userId : Int) (plain : String) : NewToken where
  tokenableType := TOKENABLE_TYPE
  tokenableId := userId
  name := "auth"
  token := P.sha256Hex plain
  abilities := none

/-- The row that `register` inserts. -/
def registeredUser (body : RegisterRequest) (hash : String) : InsertUser where
  name := Text.trim body.name
  email := Text.trim body.email
  password := hash
  role := "teacher"

/-- The calls of the handlers. -/
inductive MayCall : AuthRequest → Stage → AuthOperation → Prop
  | registerInvalid {body e} (h : body.fault = some e) :
      MayCall (.register body) .started (.reply (.error e))
  | registerLookup {body} (h : body.fault = none) :
      MayCall (.register body) .started (.query (.findUserByEmail body.email))
  | registerConflict {body user} :
      MayCall (.register body) (.account user)
        (.reply (.error (.conflict "email already registered")))
  | registerHash {body} : MayCall (.register body) .absent (.hashPassword body.password)
  | registerInsert {body hash} :
      MayCall (.register body) (.hashed hash) (.query (.insertUser (registeredUser body hash)))
  | registerDraw {body user} : MayCall (.register body) (.created user) .generatePlainToken
  | loginLookup {headers body} :
      MayCall (.login headers body) .started (.query (.findUserByEmail body.email))
  | loginDraw {headers body user} (h : A.passwords.verifyPassword body.password user.password) :
      MayCall (.login headers body) (.account user) .generatePlainToken
  | loginNow {headers body stage} : MayCall (.login headers body) stage .now
  | loginUuid {headers body stage} : MayCall (.login headers body) stage .newUuid
  | loginLog {headers body stage log} :
      MayCall (.login headers body) stage (.query (.insertActivityLog log))
  | verifyFirst {request id hash} (h : request.presentedToken A.platform = some (id, hash)) :
      MayCall request .started (.query (.findToken id hash))
  | identify {request row} (h : request.presents.isSome) :
      MayCall request (.presented row) (.query (.findUserById row.tokenableId))
  | verifyAgain {request id hash row user}
      (h : request.presentedToken A.platform = some (id, hash)) :
      MayCall request (.identified row user) (.query (.findToken id hash))
  | remove {request row user} (h : request.presents.isSome) :
      MayCall request (.confirmed row user) (.query (.deleteToken row.id))
  | logoutDone {headers row user} :
      MayCall (.logout headers) (.removed row user)
        (.reply (.ok (okWithMessage "logged out successfully" (.message "token revoked"))))
  | refreshDraw {headers row user} :
      MayCall (.refresh headers) (.removed row user) .generatePlainToken
  | issue {request grant plain} :
      MayCall request (.drawn grant plain)
        (.query (.insertToken (grantedToken A.platform grant.userId plain)))
  | issued {request grant id plain} :
      MayCall request (.issued grant id plain) (.reply (.ok (grant.response (tokenText id plain))))
  | resetLookup {body} :
      MayCall (.resetPassword body) .started (.query (.findUserByEmail body.email))
  | resetHash {body user} :
      MayCall (.resetPassword body) (.account user) (.hashPassword body.newPassword)
  | resetUpdate {body user hash} :
      MayCall (.resetPassword body) (.rehashed user hash) (.query (.updatePassword user.id hash))
  | resetRevoke {body user hash} :
      MayCall (.resetPassword body) (.updated user hash)
        (.query (.deleteTokensOf user.id TOKENABLE_TYPE))
  | resetDone {body user hash} :
      MayCall (.resetPassword body) (.revoked user hash)
        (.reply (.ok (okWithMessage "password reset successfully"
          (.message "all sessions invalidated"))))
  | refused {request stage e} (h : request.isRegister = false) :
      MayCall request stage (.reply (.error e))
  | failed {request e} : MayCall request .ended (.reply (.error e))

/-- `MayCall` as a specification of programs. -/
def stages : OpSpec authEffects AuthLabel where
  pre l o := MayCall A l.request l.stage o
  step l o r l' := l' = l.after o r

/-- A program whose result may be sent. -/
def Answers (p : AuthResult AppError Response) (l : AuthLabel) : Prop :=
  p.run.wp (stages A) (fun r l' => MayCall A l'.request l'.stage (.reply r)) l

variable {A}

/-! ## The shared parts -/

/-- A new token is issued after a stage that leads to its grant. -/
theorem wp_issueToken (grant : Grant) {request : AuthRequest} {stage : Stage}
    (hdraw : MayCall A request stage .generatePlainToken)
    (hdrawn : ∀ plain, stage.after .generatePlainToken plain = .drawn grant plain)
    {Q : Except AppError String → AuthLabel → Prop}
    (hok : ∀ id plain, Q (.ok (tokenText id plain)) ⟨request, .issued grant id plain⟩)
    (herr : ∀ e, Q (.error e) ⟨request, .ended⟩) :
    (internalError (issueToken A.platform grant.userId "auth" none)).run.wp (stages A) Q
      ⟨request, stage⟩ := by
  refine (wp_run_mapErr _ _ _ _).2 ((wp_run_bind _ _ _ _).2 ((wp_run_liftM _ _ _).2
    ((wp_generatePlainToken _).2 ⟨hdraw, fun plain l hl => ?_⟩)))
  obtain rfl : l = ⟨request, .drawn grant plain⟩ :=
    hl.trans (congrArg (AuthLabel.mk request) (hdrawn plain))
  refine (wp_run_bind _ _ _ _).2 ((wp_run_mapErr _ _ _ _).2 ((wp_authQuery _ _).2
    ⟨.issue, fun r l hl => ?_⟩))
  subst hl
  cases r with
  | ok id => exact hok id plain
  | error e => exact herr _

section Presented

variable {request : AuthRequest} {headers : Headers} (hp : request.presents = some headers)
include hp

theorem presentedToken_eq {token : String} (hb : bearerToken headers = .ok token) :
    request.presentedToken A.platform = parseToken A.platform token := by
  unfold AuthRequest.presentedToken
  rw [hp, Option.bind_some, hb]

/-- The lookup of a token, at either check. -/
theorem wp_verifyToken {stage : Stage} {token : String} (hb : bearerToken headers = .ok token)
    (hcall : ∀ id hash, request.presentedToken A.platform = some (id, hash) →
      MayCall A request stage (.query (.findToken id hash)))
    {Q : Except String (Option PersonalAccessToken) → AuthLabel → Prop}
    (hfound : ∀ id hash row, Q (.ok (some row))
      ⟨request, stage.after (.query (.findToken id hash)) (.ok (some row))⟩)
    (habsent : ∀ stage, Q (.ok none) ⟨request, stage⟩)
    (herr : ∀ e stage, Q (.error e) ⟨request, stage⟩) :
    (verifyToken A.platform token).run.wp (stages A) Q ⟨request, stage⟩ := by
  unfold verifyToken
  cases hparse : parseToken A.platform token with
  | none => exact habsent stage
  | some idHash =>
    obtain ⟨id, hash⟩ := idHash
    refine (wp_run_mapErr _ _ _ _).2 ((wp_authQuery _ _).2
      ⟨hcall id hash ((presentedToken_eq hp hb).trans hparse), fun r l hl => ?_⟩)
    subst hl
    match r with
    | .ok (some row) => exact hfound id hash row
    | .ok none => exact habsent _
    | .error e => exact herr _ _

/-- The `Principal` extractor. -/
theorem wp_principal {Q : Except AppError Principal → AuthLabel → Prop}
    (hok : ∀ row user, Q (.ok ⟨user.id, user.role⟩) ⟨request, .identified row user⟩)
    (herr : ∀ e stage, Q (.error e) ⟨request, stage⟩) :
    (principalFromRequestParts A.platform headers).run.wp (stages A) Q ⟨request, .started⟩ := by
  have hpresents : request.presents.isSome := by
    rw [hp]
    rfl
  unfold principalFromRequestParts
  cases hb : bearerToken headers with
  | error e => exact herr e _
  | ok token =>
    refine (wp_run_bind _ _ _ _).2 ((wp_run_mapErr _ _ _ _).2
      (wp_verifyToken hp hb (fun _ _ => .verifyFirst) (fun _ _ row => ?_)
        (fun _ => herr _ _) fun _ _ => herr _ _))
    refine (wp_run_bind _ _ _ _).2 ((wp_run_mapErr _ _ _ _).2 ((wp_run_mapErr _ _ _ _).2
      ((wp_authQuery _ _).2 ⟨.identify hpresents, fun r l hl => ?_⟩)))
    subst hl
    match r with
    | .ok (some user) => exact hok row user
    | .ok none => exact herr _ _
    | .error e => exact herr _ _

/-- The second check. -/
theorem wp_requireToken {row : PersonalAccessToken} {user : User}
    {Q : Except AppError PersonalAccessToken → AuthLabel → Prop}
    (hok : ∀ row, Q (.ok row) ⟨request, .confirmed row user⟩)
    (herr : ∀ e stage, Q (.error e) ⟨request, stage⟩) :
    (requireToken A headers).run.wp (stages A) Q ⟨request, .identified row user⟩ := by
  unfold requireToken
  cases hb : bearerToken headers with
  | error e => exact herr e _
  | ok token =>
    refine (wp_run_bind _ _ _ _).2 ((wp_run_mapErr _ _ _ _).2
      (wp_verifyToken hp hb (fun _ _ => .verifyAgain) (fun _ _ row' => ?_)
        (fun _ => herr _ _) fun _ _ => herr _ _))
    exact hok row'

/-- The `DELETE` of the presented token. -/
theorem wp_revokeToken {row : PersonalAccessToken} {user : User}
    {Q : Except AppError Unit → AuthLabel → Prop}
    (hok : Q (.ok ()) ⟨request, .removed row user⟩)
    (herr : ∀ e stage, Q (.error e) ⟨request, stage⟩) :
    (internalError (revokeToken row.id)).run.wp (stages A) Q ⟨request, .confirmed row user⟩ := by
  have hpresents : request.presents.isSome := by
    rw [hp]
    rfl
  refine (wp_run_mapErr _ _ _ _).2 ((wp_run_bind _ _ _ _).2 ((wp_run_mapErr _ _ _ _).2
    ((wp_authQuery _ _).2 ⟨.remove hpresents, fun r l hl => ?_⟩)))
  subst hl
  cases r with
  | ok count => exact hok
  | error e => exact herr _ _

end Presented

/-! ## The handlers -/

theorem answers_register (body : RegisterRequest) :
    Answers A (register A body) ⟨.register body, .started⟩ := by
  unfold Answers register
  cases hfault : body.fault with
  | some e => exact .registerInvalid hfault
  | none =>
    refine (wp_run_bind _ _ _ _).2 ((wp_run_mapErr _ _ _ _).2 ((wp_authQuery _ _).2
      ⟨.registerLookup hfault, fun r l hl => ?_⟩))
    subst hl
    match r with
    | .error e => exact .failed
    | .ok (some user) => exact .registerConflict
    | .ok none =>
      refine (wp_run_bind _ _ _ _).2 ((wp_run_mapErr _ _ _ _).2 ((wp_hashPassword _ _).2
        ⟨.registerHash, fun r l hl => ?_⟩))
      subst hl
      match r with
      | .error e => exact .failed
      | .ok hash =>
        refine (wp_run_bind _ _ _ _).2 ((wp_run_mapErr _ _ _ _).2 ((wp_authQuery _ _).2
          ⟨.registerInsert, fun r l hl => ?_⟩))
        subst hl
        match r with
        | .error e => exact .failed
        | .ok user =>
          exact (wp_run_bind _ _ _ _).2 (wp_issueToken (.registration user) .registerDraw
            (fun _ => rfl) (fun _ _ => .issued) fun _ => .failed)

theorem answers_rejectLogin (headers : Headers) (body : LoginRequest) (stage : Stage) :
    Answers A (rejectLogin A body.email headers) ⟨.login headers body, stage⟩ := by
  refine (wp_run_bind _ _ _ _).2 ((wp_run_liftM _ _ _).2 ?_)
  refine (wp_bind _ _ _ _).2 ⟨.loginNow, fun _ l hl => ?_⟩
  subst hl
  refine (wp_bind _ _ _ _).2 ⟨.loginUuid, fun _ l hl => ?_⟩
  subst hl
  refine (wp_bind _ _ _ _).2 ⟨.loginLog, fun _ l hl => ?_⟩
  subst hl
  exact .refused rfl

theorem answers_login (headers : Headers) (body : LoginRequest) :
    Answers A (login A headers body) ⟨.login headers body, .started⟩ := by
  unfold Answers login
  split
  · exact .refused rfl
  · split
    · exact .refused rfl
    · refine (wp_run_bind _ _ _ _).2 ((wp_run_mapErr _ _ _ _).2 ((wp_authQuery _ _).2
        ⟨.loginLookup, fun r l hl => ?_⟩))
      subst hl
      match r with
      | .error e => exact .refused rfl
      | .ok none => exact answers_rejectLogin headers body _
      | .ok (some user) =>
        show (ite (A.passwords.verifyPassword body.password user.password = true) _
          (rejectLogin A body.email headers)).run.wp _ _ _
        by_cases hverify : A.passwords.verifyPassword body.password user.password = true
        · rw [if_pos hverify]
          exact (wp_run_bind _ _ _ _).2 (wp_issueToken (.password user)
            (.loginDraw hverify) (fun _ => rfl) (fun _ _ => .issued) fun _ => .refused rfl)
        · rw [if_neg hverify]
          exact answers_rejectLogin headers body _

theorem answers_logout (headers : Headers) :
    Answers A (logout A headers) ⟨.logout headers, .started⟩ := by
  refine (wp_run_bind _ _ _ _).2 (wp_principal rfl (fun row user => ?_) fun _ _ => .refused rfl)
  refine (wp_run_bind _ _ _ _).2 (wp_requireToken rfl (fun row => ?_) fun _ _ => .refused rfl)
  exact (wp_run_bind _ _ _ _).2 (wp_revokeToken rfl .logoutDone fun _ _ => .refused rfl)

theorem answers_refresh (headers : Headers) :
    Answers A (refresh A headers) ⟨.refresh headers, .started⟩ := by
  refine (wp_run_bind _ _ _ _).2 (wp_principal rfl (fun row user => ?_) fun _ _ => .refused rfl)
  refine (wp_run_bind _ _ _ _).2 (wp_requireToken rfl (fun row => ?_) fun _ _ => .refused rfl)
  refine (wp_run_bind _ _ _ _).2 (wp_revokeToken rfl ?_ fun _ _ => .refused rfl)
  exact (wp_run_bind _ _ _ _).2 (wp_issueToken (.exchange row user) .refreshDraw
    (fun _ => rfl) (fun _ _ => .issued) fun _ => .refused rfl)

/-- The part of a reset that follows its checks. -/
theorem answers_changePassword (body : VerifyAndResetPasswordRequest) (user : User) :
    Answers A
      (do
        let newHash ← internalError (hashPassword body.newPassword)
        updatePassword user.id newHash
        internalError (revokeAllForUser user.id)
        return okWithMessage "password reset successfully" (.message "all sessions invalidated"))
      ⟨.resetPassword body, .account user⟩ := by
  refine (wp_run_bind _ _ _ _).2 ((wp_run_mapErr _ _ _ _).2 ((wp_hashPassword _ _).2
    ⟨.resetHash, fun r l hl => ?_⟩))
  subst hl
  match r with
  | .error e => exact .refused rfl
  | .ok hash =>
    refine (wp_run_bind _ _ _ _).2 ((wp_run_bind _ _ _ _).2 ((wp_run_mapErr _ _ _ _).2
      ((wp_authQuery _ _).2 ⟨.resetUpdate, fun r l hl => ?_⟩)))
    subst hl
    match r with
    | .error e => exact .refused rfl
    | .ok count =>
      refine (wp_run_bind _ _ _ _).2 ((wp_run_mapErr _ _ _ _).2 ((wp_run_bind _ _ _ _).2
        ((wp_run_mapErr _ _ _ _).2 ((wp_authQuery _ _).2 ⟨.resetRevoke, fun r l hl => ?_⟩))))
      subst hl
      match r with
      | .error e => exact .refused rfl
      | .ok count => exact .resetDone

theorem answers_resetPassword (body : VerifyAndResetPasswordRequest) :
    Answers A (verifyAndResetPassword A body) ⟨.resetPassword body, .started⟩ := by
  unfold Answers verifyAndResetPassword
  cases hfault : body.fault with
  | some e => exact .refused rfl
  | none =>
    refine (wp_run_bind _ _ _ _).2 ((wp_run_mapErr _ _ _ _).2 ((wp_authQuery _ _).2
      ⟨.resetLookup, fun r l hl => ?_⟩))
    subst hl
    match r with
    | .error e => exact .refused rfl
    | .ok none => exact .refused rfl
    | .ok (some user) =>
      cases user with
      | mk id name email password avatarUrl primarySubjectId role question answer =>
      cases answer with
      | none => exact .refused rfl
      | some storedAnswer =>
        show (ite (A.passwords.verifyPassword body.securityAnswer storedAnswer = true) _
          (throw _) : AuthResult AppError Response).run.wp _ _ _
        by_cases hverify : A.passwords.verifyPassword body.securityAnswer storedAnswer = true
        · rw [if_pos hverify]
          exact answers_changePassword body _
        · rw [if_neg hverify]
          exact .refused rfl

/-- Every task calls what `MayCall` lists. -/
theorem follows_serve (request : AuthRequest) :
    (serve A request).wp (stages A) (fun _ _ => True) { request } := by
  have hanswers : Answers A (handler A request) { request } := by
    cases request with
    | register body => exact answers_register body
    | login headers body => exact answers_login headers body
    | logout headers => exact answers_logout headers
    | refresh headers => exact answers_refresh headers
    | resetPassword body => exact answers_resetPassword body
  exact (wp_bind _ _ _ _).2 (wp_mono (fun r l h => ⟨h, fun _ _ _ => trivial⟩) hanswers)

/-- The call of a task of the pool is one of those that its label allows. -/
theorem mayCall_of_reach {ok : (authSystem A).State → (authSystem A).Action → Prop} {w : AuthWorld}
    {s : (authSystem A).State} (h : Pool.Reach ok ((authSystem A).start w) s) {i : Nat}
    {l : AuthLabel} {o : AuthOperation} {k : o.Resp → AuthProg Unit}
    (ht : s.tasks i = some ⟨l, .op o k⟩) : MayCall A l.request l.stage o := by
  have hspawn : ∀ (w : AuthWorld) (arr : AuthArrival) (w' : AuthWorld)
      (spawned : List (AuthLabel × AuthProg Unit)), authArrive A w arr = some (w', spawned) →
      ∀ l p, (l, p) ∈ spawned → p.wp (stages A) (fun _ _ => True) l := by
    intro w arr w' spawned harr l p hlp
    obtain ⟨hl, rfl⟩ := spawned_of_authArrive harr hlp
    rw [hl]
    exact follows_serve l.request
  have hfollows : (Prog.op o k).wp (stages A) (fun _ _ => True) l :=
    h.follows (fun _ _ _ => rfl) hspawn ht
  exact hfollows.1

/-- The label of a task. -/
def labelOf (s : (authSystem A).State) (i : Nat) : Option AuthLabel := Pool.labelAt s i

/-- What a step of a reachable state does to the tables and to the labels. -/
theorem auth_step_cases {ok : (authSystem A).State → (authSystem A).Action → Prop} {w : AuthWorld}
    {s s' : (authSystem A).State} {a : (authSystem A).Action}
    (hs : Pool.Reach ok ((authSystem A).start w) s) (h : Pool.step s a = some s') :
    (∃ arr, a = .arrive arr ∧
      (s'.world = s.world ∨ ∃ data expiresAt, arr = .foreignToken data expiresAt ∧
        s'.world = { s.world with db := s.world.db.addForeign data expiresAt }) ∧
      ∀ i l, labelOf s' i = some l → labelOf s i = some l ∨ s.next ≤ i ∧ l.stage = .started) ∨
    (∃ i c request stage o, a = .act i c ∧ Pool.called s a = some (⟨request, stage⟩, o) ∧
      labelOf s i = some ⟨request, stage⟩ ∧ MayCall A request stage o ∧
      s'.world = (o.exec A.passwords s.world c).2 ∧
      (∀ l', labelOf s' i = some l' →
        l' = ⟨request, stage.after o (o.exec A.passwords s.world c).1⟩) ∧
      ∀ j, j ≠ i → labelOf s' j = labelOf s j) ∨
    (∃ i, a = .crash i ∧ s'.world = s.world ∧
      ∀ j l, labelOf s' j = some l → labelOf s j = some l) := by
  obtain ⟨arr, spawned, rfl, harr, hlabels⟩ | ⟨i, c, l, o, k, rfl, hti, hw, hown, hother⟩ |
    ⟨i, rfl, hw, hlabels⟩ := Pool.step_labels h
  · refine .inl ⟨arr, rfl, ?_, fun i l hi => ?_⟩
    · cases arr with
      | request request => exact .inl (congrArg Prod.fst (Option.some.inj harr)).symm
      | foreignToken data expiresAt =>
        exact .inr ⟨data, expiresAt, rfl, (congrArg Prod.fst (Option.some.inj harr)).symm⟩
    · obtain hold | ⟨hnext, p, hp⟩ := hlabels i l hi
      · exact .inl hold
      · obtain ⟨hl, _⟩ := spawned_of_authArrive harr hp
        refine .inr ⟨hnext, ?_⟩
        have hl : l = ({ request := AuthLabel.request l } : AuthLabel) := hl
        rw [hl]
  · obtain ⟨request, stage⟩ : AuthLabel := l
    refine .inr (.inl ⟨i, c, request, stage, o, rfl, Pool.called_act hti, ?_,
      mayCall_of_reach hs hti, hw, hown, hother⟩)
    show (s.tasks i).map Task.label = some _
    rw [hti]
    rfl
  · exact .inr (.inr ⟨i, rfl, hw, hlabels⟩)

/-- What holds of the label of a task, and is kept by every call of that task,
holds of it later.  If the task may be a new one, it holds of every start. -/
theorem label_invariant {ok : (authSystem A).State → (authSystem A).Action → Prop} {w : AuthWorld}
    {j : Nat} {K : AuthLabel → Prop} {s s' : (authSystem A).State}
    (hs : Pool.Reach ok ((authSystem A).start w) s) (h : Pool.Reach ok s s')
    (hstart : j < s.next ∨ ∀ request, K { request })
    (hown : ∀ t c request stage o, Pool.Reach ok ((authSystem A).start w) t → Pool.Reach ok s t →
      ok t (.act j c) → Pool.called t (.act j c) = some (⟨request, stage⟩, o) →
      labelOf t j = some ⟨request, stage⟩ → MayCall A request stage o → K ⟨request, stage⟩ →
      K ⟨request, stage.after o (o.exec A.passwords t.world c).1⟩)
    (hkept : ∀ l, labelOf s j = some l → K l) : ∀ l, labelOf s' j = some l → K l := by
  have hboth : Pool.Reach ok ((authSystem A).start w) s' ∧ ∀ l, labelOf s' j = some l → K l := by
    induction h with
    | refl => exact ⟨hs, hkept⟩
    | @tail t t' hbefore hlast ih =>
      obtain ⟨a, hok, he⟩ := hlast
      obtain ⟨ht, hkept⟩ := ih
      refine ⟨ht.tail ⟨a, hok, he⟩, fun l hl => ?_⟩
      obtain ⟨arr, rfl, _, hlabels⟩ | ⟨i, c, request, stage, o, rfl, hcalled, hi, hcall, _, howns,
        hother⟩ | ⟨i, rfl, _, hlabels⟩ := auth_step_cases ht he
      · obtain hold | ⟨hnew, hstage⟩ := hlabels j l hl
        · exact hkept l hold
        · obtain hlt | hall := hstart
          · have hnext := Pool.Reach.next_le hbefore
            omega
          · obtain ⟨request, stage⟩ := l
            have hstage : stage = .started := hstage
            rw [hstage]
            exact hall request
      · by_cases hji : j = i
        · subst hji
          rw [howns l hl]
          exact hown t c request stage o ht hbefore hok hcalled hi hcall (hkept _ hi)
        · rw [hother j hji] at hl
          exact hkept l hl
      · exact hkept l (hlabels j l hl)
  exact hboth.2

/-- What holds of the stage of a task as long as it serves one request, and is kept by every call
that it makes for this request, holds of its stage later. -/
theorem stage_invariant {ok : (authSystem A).State → (authSystem A).Action → Prop} {w : AuthWorld}
    {j : Nat} {request : AuthRequest} {K : Stage → Prop} {s s' : (authSystem A).State}
    (hs : Pool.Reach ok ((authSystem A).start w) s) (h : Pool.Reach ok s s')
    (hstart : j < s.next ∨ K .started)
    (hown : ∀ t c stage o, Pool.Reach ok ((authSystem A).start w) t → Pool.Reach ok s t →
      ok t (.act j c) → Pool.called t (.act j c) = some (⟨request, stage⟩, o) →
      labelOf t j = some ⟨request, stage⟩ → MayCall A request stage o → K stage →
      K (stage.after o (o.exec A.passwords t.world c).1))
    (hkept : ∀ stage, labelOf s j = some ⟨request, stage⟩ → K stage) {stage : Stage}
    (hl : labelOf s' j = some ⟨request, stage⟩) : K stage := by
  refine label_invariant (K := fun l => l.request = request → K l.stage) hs h
    (hstart.imp_right fun hfirst _ _ => hfirst)
    (fun t c request' stage o ht hst hok hcalled hlt hcall hbefore heq => ?_)
    (fun l hls heq => ?_) ⟨request, stage⟩ hl rfl
  · obtain rfl : request' = request := heq
    exact hown t c stage o ht hst hok hcalled hlt hcall (hbefore rfl)
  · obtain ⟨request', stage⟩ := l
    obtain rfl : request' = request := heq
    exact hkept stage hls

theorem labelOf_lt {ok : (authSystem A).State → (authSystem A).Action → Prop} {w : AuthWorld}
    {s : (authSystem A).State} (h : Pool.Reach ok ((authSystem A).start w) s) {i : Nat}
    {l : AuthLabel} (hl : labelOf s i = some l) : i < s.next := by
  by_contra hle
  have hnone := Pool.tasks_of_le h i (Nat.le_of_not_lt hle)
  have hl : (s.tasks i).map Task.label = some l := hl
  rw [hnone] at hl
  cases hl

/-- A task serves one request. -/
theorem request_of_reach {ok : (authSystem A).State → (authSystem A).Action → Prop} {w : AuthWorld}
    {s s' : (authSystem A).State} (hs : Pool.Reach ok ((authSystem A).start w) s)
    (h : Pool.Reach ok s s') {j : Nat} {l l' : AuthLabel} (hl : labelOf s j = some l)
    (hl' : labelOf s' j = some l') : l'.request = l.request := by
  refine label_invariant (K := fun l' => l'.request = l.request) hs h (.inl (labelOf_lt hs hl))
    (fun _ _ _ _ _ _ _ _ _ _ _ hkept => hkept) (fun l₀ hl₀ => ?_) l' hl'
  rw [hl] at hl₀
  cases hl₀
  rfl

/-- The call of a step. -/
def calledAt (s : (authSystem A).State) (a : (authSystem A).Action) :
    Option (AuthLabel × AuthOperation) := Pool.called s a

/-- No call of a step fails by a fault. -/
def NoFault (_ : (authSystem A).State) : (authSystem A).Action → Prop
  | .act _ c => (AuthChoice.fault c matches .none) && (AuthChoice.salt c).isOk
  | _ => True

instance (s : (authSystem A).State) (a : (authSystem A).Action) : Decidable (NoFault s a) := by
  unfold NoFault
  split <;> infer_instance

theorem NoFault.act {s : (authSystem A).State} {i : Nat} {c : AuthChoice}
    (h : NoFault s (.act i c)) : c.fault = .none ∧ c.salt.isOk := by
  obtain ⟨hfault, hsalt⟩ := Bool.and_eq_true_iff.1 h
  refine ⟨?_, hsalt⟩
  cases hc : c.fault with
  | none => rfl
  | _ =>
    rw [hc] at hfault
    cases hfault

/-- A task is about to send its response. -/
def Replies (s : (authSystem A).State) (i : Nat) (request : AuthRequest)
    (response : Except AppError Response) : Prop :=
  ∃ l k, s.tasks i = some ⟨l, .op (.reply response) k⟩ ∧ AuthLabel.request l = request

theorem replies_of_replyAt {s : (authSystem sampleAuth).State} {i : Nat} {request : AuthRequest}
    {response : Except AppError Response} (h : replyAt s i = some (request, response)) :
    Replies s i request response := by
  unfold replyAt at h
  split at h
  · next l r k ht =>
    obtain ⟨rfl, rfl⟩ := Prod.mk.inj (Option.some.inj h)
    exact ⟨l, k, ht, rfl⟩
  · cases h

theorem Replies.mayCall {ok : (authSystem A).State → (authSystem A).Action → Prop} {w : AuthWorld}
    {s : (authSystem A).State} (hs : Pool.Reach ok ((authSystem A).start w) s) {i : Nat}
    {request : AuthRequest} {response : Except AppError Response}
    (h : Replies s i request response) :
    ∃ stage, labelOf s i = some ⟨request, stage⟩ ∧ MayCall A request stage (.reply response) := by
  obtain ⟨l, k, hti, rfl⟩ := h
  refine ⟨AuthLabel.stage l, ?_, mayCall_of_reach hs hti⟩
  show (s.tasks i).map Task.label = some l
  rw [hti]
  rfl

end KlassGateway.Auth
