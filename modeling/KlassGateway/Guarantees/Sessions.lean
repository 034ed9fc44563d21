import KlassGateway.AuthStages
import KlassGateway.Guarantees.Authentication
/-!
# The end of a session

A login, a refresh, a logout and a reset each check, delete and insert in
separate statements, and none of them looks at the number of deleted rows.

* `StageOk` says what a handler knows of the tables at each stage, in every run.
* `Serialized` is the condition on the steps.  A refresh finds the token that it
  deletes, with no logout waiting to delete it too.  A reset deletes the tokens
  of its user while nobody is about to open a session of that user.
* `sessions_end`: in a run of such steps a reset ends all earlier sessions of
  its user, a logout ends its session for good, and a token is refreshed once.
* `refreshed_twice` is a run without faults in which two refreshes of one token
  succeed.
-/

namespace KlassGateway.Auth

open Lib Lib.Prog Api

variable {A : AuthState}

/-! ## What a stage says of the tables -/

/-- What the grant of a new token rests on. -/
def GrantOk (P : Platform) (db : AuthDatabase) (request : AuthRequest) : Grant → Prop
  | .registration _ => request.isRegister
  | .password _ => ∃ headers body, request = .login headers body
  | .exchange row _ => (∃ headers, request = .refresh headers) ∧
      request.presentedToken P = some (row.id, row.token) ∧ Spent row.id db

/-- The rows under an id belong to a user. -/
def OwnedBy (userId id : Int) (db : AuthDatabase) : Prop :=
  AllUnder id (fun t => t.tokenableId = userId) db

/-- What a stage says of the request and of the tables. -/
def StageOk (P : Platform) (db : AuthDatabase) (request : AuthRequest) : Stage → Prop
  | .started => True
  | .ended => True
  | .replied => True
  | .presented row => request.presentedToken P = some (row.id, row.token) ∧
      OwnedBy row.tokenableId row.id db
  | .identified row user => request.presentedToken P = some (row.id, row.token) ∧
      OwnedBy user.id row.id db
  | .confirmed row user => request.presentedToken P = some (row.id, row.token) ∧
      OwnedBy user.id row.id db
  | .removed row _ => request.presentedToken P = some (row.id, row.token) ∧ Spent row.id db
  | .drawn grant _ => GrantOk P db request grant
  | .issued grant id _ => GrantOk P db request grant ∧ OwnedBy grant.userId id db
  | _ => request.presents = none

section Stages

variable {P : Platform} {db db' : AuthDatabase} {request : AuthRequest}

theorem GrantOk.mono {grant : Grant} (h : GrantOk P db request grant)
    (hmono : ∀ id p, AllUnder id p db → AllUnder id p db') : GrantOk P db' request grant := by
  cases grant with
  | registration user => exact h
  | password user => exact h
  | exchange row user =>
    obtain ⟨hrefresh, hpresented, hspent⟩ := h
    exact ⟨hrefresh, hpresented, spent_iff.2 (hmono _ _ (spent_iff.1 hspent))⟩

theorem StageOk.mono {stage : Stage} (h : StageOk P db request stage)
    (hmono : ∀ id p, AllUnder id p db → AllUnder id p db') : StageOk P db' request stage := by
  cases stage with
  | presented row => exact ⟨h.1, hmono _ _ h.2⟩
  | identified row user => exact ⟨h.1, hmono _ _ h.2⟩
  | confirmed row user => exact ⟨h.1, hmono _ _ h.2⟩
  | removed row user => exact ⟨h.1, spent_iff.2 (hmono _ _ (spent_iff.1 h.2))⟩
  | drawn grant plain => exact GrantOk.mono h hmono
  | issued grant id plain => exact ⟨h.1.mono hmono, hmono _ _ h.2⟩
  | _ => exact h

end Stages

/-- A lookup answers with a row under the id, with the digest. -/
theorem mem_of_findToken {w : AuthWorld} {c : AuthChoice} {id : Int} {hash : String}
    {row : PersonalAccessToken}
    (h : (AuthOperation.exec A.passwords w (.query (.findToken id hash)) c).1 = .ok (some row)) :
    row ∈ w.db.tokens ∧ row.id = id ∧ row.token = hash ∧
      (AuthOperation.exec A.passwords w (.query (.findToken id hash)) c).2.db = w.db := by
  obtain ⟨hfound, hdb⟩ := AuthOperation.exec_query_ok h
  have hfind : w.db.tokens.find? (fun t => t.id == id && t.token == hash) = some row :=
    Except.ok.inj hfound
  have hkey := List.find?_some hfind
  obtain ⟨hid, hhash⟩ : row.id = id ∧ row.token = hash := by simpa using hkey
  exact ⟨List.mem_of_find?_eq_some hfind, hid, hhash, hdb⟩

/-- A `DELETE` of a token spends its id. -/
theorem spent_of_deleteToken {w : AuthWorld} {c : AuthChoice} {id : Int} {count : Nat}
    (hdrawn : id ≤ w.db.tokenSequence)
    (h : (AuthOperation.exec A.passwords w (.query (.deleteToken id)) c).1 = .ok count) :
    Spent id (AuthOperation.exec A.passwords w (.query (.deleteToken id)) c).2.db := by
  obtain ⟨_, hdb⟩ := AuthOperation.exec_query_ok h
  rw [hdb]
  refine ⟨fun t ht => ?_, hdrawn⟩
  have hne := (List.mem_filter.1 ht).2
  simpa using hne

/-- An inserted token is the only row under its id. -/
theorem ownedBy_of_insertToken {w : AuthWorld} (hids : TokenIds w.db) {c : AuthChoice}
    {grant : Grant} {plain : String} {id : Int}
    (h : (AuthOperation.exec A.passwords w
      (.query (.insertToken (grantedToken A.platform grant.userId plain))) c).1 = .ok id) :
    OwnedBy grant.userId id (AuthOperation.exec A.passwords w
      (.query (.insertToken (grantedToken A.platform grant.userId plain))) c).2.db := by
  obtain ⟨hid, hdb⟩ := AuthOperation.exec_query_ok h
  have hids' := hids.exec (.insertToken (grantedToken A.platform grant.userId plain))
  rw [hdb]
  simp only [AuthQuery.exec, AuthDatabase.insertToken] at hid hids' ⊢
  cases hf : w.db.insertTokenFault (grantedToken A.platform grant.userId plain) with
  | some e =>
    rw [hf] at hid
    cases hid
  | none =>
    rw [hf] at hid hids'
    obtain rfl := Except.ok.inj hid
    exact hids'.allUnder (List.mem_append_right _ (List.mem_singleton_self _)) rfl

theorem AllUnder.execOperation {w : AuthWorld} (c : AuthChoice) (o : AuthOperation) {id : Int}
    {p : PersonalAccessToken → Prop} (h : AllUnder id p w.db) :
    AllUnder id p (o.exec A.passwords w c).2.db := by
  obtain hdb | ⟨q, _, hdb⟩ := o.exec_db A.passwords w c
  · rw [hdb]
    exact h
  · rw [hdb]
    exact h.exec q

section Own

variable {w : AuthWorld} {request : AuthRequest} {c : AuthChoice} {id : Int} {hash : String}

/-- The first look at the token that a request presents. -/
theorem StageOk.verifyFirst (hids : TokenIds w.db)
    (hp : request.presentedToken A.platform = some (id, hash)) :
    StageOk A.platform (AuthOperation.exec A.passwords w (.query (.findToken id hash)) c).2.db request
      (Stage.started.after (.query (.findToken id hash))
        (AuthOperation.exec A.passwords w (.query (.findToken id hash)) c).1) := by
  cases hr : (AuthOperation.exec A.passwords w (.query (.findToken id hash)) c).1 with
  | error e => trivial
  | ok found =>
    cases found with
    | none => trivial
    | some row =>
      obtain ⟨hmem, rfl, rfl, hdb⟩ := mem_of_findToken hr
      rw [hdb]
      exact ⟨hp, hids.allUnder hmem rfl⟩

/-- The account of the token. -/
theorem StageOk.identify {row : PersonalAccessToken}
    (h : StageOk A.platform w.db request (.presented row)) :
    StageOk A.platform
      (AuthOperation.exec A.passwords w (.query (.findUserById row.tokenableId)) c).2.db request
      ((Stage.presented row).after (.query (.findUserById row.tokenableId))
        (AuthOperation.exec A.passwords w (.query (.findUserById row.tokenableId)) c).1) := by
  cases hr : (AuthOperation.exec A.passwords w (.query (.findUserById row.tokenableId)) c).1 with
  | error e => trivial
  | ok found =>
    cases found with
    | none => trivial
    | some user =>
      obtain ⟨hfound, hdb⟩ := AuthOperation.exec_query_ok hr
      have huser : user.id = row.tokenableId := Table.find_key (Except.ok.inj hfound)
      rw [hdb]
      refine ⟨h.1, ?_⟩
      rw [huser]
      exact h.2

/-- The second look at the token. -/
theorem StageOk.verifyAgain {row : PersonalAccessToken} {user : User}
    (h : StageOk A.platform w.db request (.identified row user))
    (hp : request.presentedToken A.platform = some (id, hash)) :
    StageOk A.platform (AuthOperation.exec A.passwords w (.query (.findToken id hash)) c).2.db request
      ((Stage.identified row user).after (.query (.findToken id hash))
        (AuthOperation.exec A.passwords w (.query (.findToken id hash)) c).1) := by
  cases hr : (AuthOperation.exec A.passwords w (.query (.findToken id hash)) c).1 with
  | error e => trivial
  | ok found =>
    cases found with
    | none => trivial
    | some row' =>
      obtain ⟨_, rfl, rfl, hdb⟩ := mem_of_findToken hr
      obtain ⟨hrow, howned⟩ := h
      rw [hp] at hrow
      obtain ⟨hid, _⟩ := Prod.mk.inj (Option.some.inj hrow)
      rw [hdb]
      refine ⟨hp, ?_⟩
      rw [hid]
      exact howned

/-- A call leads from one stage to the next. -/
theorem StageOk.own (hids : TokenIds w.db) {stage : Stage} {o : AuthOperation}
    (h : StageOk A.platform w.db request stage) (hcall : MayCall A request stage o) :
    StageOk A.platform (o.exec A.passwords w c).2.db request
      (stage.after o (o.exec A.passwords w c).1) := by
  cases hcall with
  | registerInvalid _ | refused _ => trivial
  | registerConflict | logoutDone | issued | resetDone | failed => trivial
  | loginNow | loginUuid | loginLog => trivial
  | registerDraw => exact rfl
  | loginDraw _ => exact ⟨_, _, rfl⟩
  | refreshDraw => exact ⟨⟨_, rfl⟩, h⟩
  | registerLookup _ | loginLookup | resetLookup =>
    match (AuthOperation.exec A.passwords w _ c).1 with
    | .error e => trivial
    | .ok none => exact rfl
    | .ok (some user) => exact rfl
  | registerHash | resetHash =>
    match (AuthOperation.exec A.passwords w _ c).1 with
    | .error e => trivial
    | .ok hash => exact rfl
  | registerInsert | resetUpdate | resetRevoke =>
    match (AuthOperation.exec A.passwords w _ c).1 with
    | .error e => trivial
    | .ok _ => exact rfl
  | verifyFirst hp => exact .verifyFirst hids hp
  | identify _ => exact h.identify
  | verifyAgain hp => exact h.verifyAgain hp
  | @remove _ row user _ =>
    cases hr : (AuthOperation.exec A.passwords w (.query (.deleteToken row.id)) c).1 with
    | error e => trivial
    | ok count => exact ⟨h.1, spent_of_deleteToken h.2.drawn hr⟩
  | @issue _ grant plain =>
    cases hr : (AuthOperation.exec A.passwords w
        (.query (.insertToken (grantedToken A.platform grant.userId plain))) c).1 with
    | error e => trivial
    | ok id => exact ⟨GrantOk.mono h fun _ _ hp => hp.execOperation c _, ownedBy_of_insertToken hids hr⟩

end Own

/-- What holds of the tables and of every stage. -/
structure SessionsOk (s : (authSystem A).State) : Prop where
  ids : TokenIds (AuthWorld.db s.world)
  stage : ∀ i request stage, labelOf s i = some ⟨request, stage⟩ →
    StageOk A.platform (AuthWorld.db s.world) request stage

section Steps

variable {ok : (authSystem A).State → (authSystem A).Action → Prop} {w : AuthWorld}
  {s s' : (authSystem A).State} {a : (authSystem A).Action}

/-- Every step keeps what holds of all ids. -/
theorem AllUnder.of_step {id : Int} {p : PersonalAccessToken → Prop} (h : Pool.step s a = some s')
    (hs : AllUnder id p (AuthWorld.db s.world)) : AllUnder id p (AuthWorld.db s'.world) :=
  have hreach : Pool.Reach (fun _ _ => True) s s' := .tail (Pool.Reach.refl s) ⟨a, trivial, h⟩
  hs.of_reach hreach

theorem SessionsOk.step (hreach : Pool.Reach ok ((authSystem A).start w) s) (hs : SessionsOk s)
    (hstep : Pool.step s a = some s') : SessionsOk s' := by
  have hnext : Pool.Reach (fun _ _ => True) s s' := .tail (Pool.Reach.refl s) ⟨a, trivial, hstep⟩
  refine ⟨TokenIds.of_reach hnext hs.ids, fun j request stage hj => ?_⟩
  obtain ⟨arr, rfl, _, hlabels⟩ | ⟨i, c, request₀, stage₀, o, rfl, _, hl, hcall, hworld, hown, hother⟩ |
    ⟨i, rfl, _, hlabels⟩ := auth_step_cases hreach hstep
  · obtain hold | ⟨_, hstart⟩ := hlabels j _ hj
    · exact (hs.stage j request stage hold).mono fun _ _ h => AllUnder.of_step hstep h
    · have hstart : stage = .started := hstart
      rw [hstart]
      trivial
  · by_cases hji : j = i
    · subst hji
      obtain ⟨rfl, rfl⟩ := AuthLabel.mk.inj (hown _ hj)
      rw [hworld]
      exact (hs.stage j _ stage₀ hl).own hs.ids hcall
    · rw [hother j hji] at hj
      exact (hs.stage j request stage hj).mono fun _ _ h => AllUnder.of_step hstep h
  · exact (hs.stage j request stage (hlabels j _ hj)).mono fun _ _ h => AllUnder.of_step hstep h

theorem sessionsOk_of_reach (hids : TokenIds w.db) (h : Pool.Reach ok ((authSystem A).start w) s) :
    SessionsOk s := by
  induction h with
  | refl => exact ⟨hids, fun i request stage hi => by cases hi⟩
  | tail hbefore hlast ih =>
    obtain ⟨a, _, he⟩ := hlast
    exact ih.step hbefore he

end Steps

/-! ## The conditions -/

/-- Some task has a label that meets `p`. -/
def someLabel (s : (authSystem A).State) (p : AuthLabel → Bool) : Bool :=
  (List.range s.next).any fun i => (labelOf s i).any p

/-- A logout that is about to delete a token. -/
def logsOut (id : Int) : AuthLabel → Bool
  | ⟨.logout _, .confirmed row _⟩ => row.id == id
  | _ => false

/-- A login or a refresh that is about to open a session of a user on the
strength of an earlier password or of a token that is deleted. -/
def opensSession (H : Passwords) (userId : Int) (newHash : String) : AuthLabel → Bool
  | ⟨.login _ body, .account user⟩ => user.id == userId && user.password != newHash &&
      H.verifyPassword body.password user.password
  | ⟨.login _ _, .drawn (.password user) _⟩ => user.id == userId && user.password != newHash
  | ⟨.refresh _, .removed _ user⟩ => user.id == userId
  | ⟨.refresh _, .drawn (.exchange _ user) _⟩ => user.id == userId
  | _ => false

/-- The token that a refresh deletes is there, and no logout is about to delete
it. -/
def RefreshesAlone (s : (authSystem A).State) (a : (authSystem A).Action) : Prop :=
  (calledAt s a).all fun lo => match lo.1.request, lo.2 with
    | .refresh _, .query (.deleteToken id) =>
      (AuthWorld.db s.world).tokens.any (fun t => t.id == id) && !someLabel s (logsOut id)
    | _, _ => true

/-- The tokens with the id of the user whose tokens a reset deletes are all of
the user type, and nobody is about to open a session of that user. -/
def RevokesAlone (s : (authSystem A).State) (a : (authSystem A).Action) : Prop :=
  (calledAt s a).all fun lo => match lo.1.stage, lo.2 with
    | .updated _ newHash, .query (.deleteTokensOf userId type) =>
      (AuthWorld.db s.world).tokens.all (fun t => t.tokenableId != userId || t.tokenableType == type) &&
        !someLabel s (opensSession A.passwords userId newHash)
    | _, _ => true

/-- The steps of the runs that the theorem is about. -/
def Serialized (s : (authSystem A).State) (a : (authSystem A).Action) : Prop :=
  RefreshesAlone s a ∧ RevokesAlone s a

instance (s : (authSystem A).State) (a : (authSystem A).Action) : Decidable (Serialized s a) :=
  inferInstanceAs (Decidable (_ = true ∧ _ = true))

section Conditions

variable {ok : (authSystem A).State → (authSystem A).Action → Prop} {w : AuthWorld}
  {s : (authSystem A).State}

theorem of_not_someLabel (h : Pool.Reach ok ((authSystem A).start w) s) {p : AuthLabel → Bool}
    (hnot : (!someLabel s p) = true) {i : Nat} {l : AuthLabel} (hl : labelOf s i = some l) :
    p l = false := by
  have hfalse : someLabel s p = false := by simpa using hnot
  have hi := List.any_eq_false.1 hfalse i (List.mem_range.2 (labelOf_lt h hl))
  rw [hl] at hi
  simpa using hi

/-- What the conditions say of the `DELETE` of a refresh. -/
theorem RefreshesAlone.deletes (h : Pool.Reach ok ((authSystem A).start w) s) {i : Nat}
    {c : AuthChoice} {headers : Headers} {stage : Stage} {id : Int}
    (hok : RefreshesAlone s (.act i c))
    (hcalled : Pool.called s (.act i c) = some (⟨.refresh headers, stage⟩, .query (.deleteToken id))) :
    (∃ t ∈ (AuthWorld.db s.world).tokens, t.id = id) ∧
      ∀ j l, labelOf s j = some l → logsOut id l = false := by
  have hcalled : calledAt s (.act i c) = _ := hcalled
  rw [RefreshesAlone, hcalled] at hok
  obtain ⟨hfound, hwaits⟩ := Bool.and_eq_true_iff.1 hok
  refine ⟨?_, fun j l hl => of_not_someLabel h hwaits hl⟩
  obtain ⟨t, ht, hid⟩ := List.any_eq_true.1 hfound
  exact ⟨t, ht, by simpa using hid⟩

/-- What they say of the `DELETE` of a reset. -/
theorem RevokesAlone.deletes (h : Pool.Reach ok ((authSystem A).start w) s) {i : Nat}
    {c : AuthChoice} {request : AuthRequest} {user : User} {newHash : String} {userId : Int}
    {type : String} (hok : RevokesAlone s (.act i c))
    (hcalled : Pool.called s (.act i c) =
      some (⟨request, .updated user newHash⟩, .query (.deleteTokensOf userId type))) :
    (∀ t ∈ (AuthWorld.db s.world).tokens, t.tokenableId = userId → t.tokenableType = type) ∧
      ∀ j l, labelOf s j = some l → opensSession A.passwords userId newHash l = false := by
  have hcalled : calledAt s (.act i c) = _ := hcalled
  rw [RevokesAlone, hcalled] at hok
  obtain ⟨htypes, hwaits⟩ := Bool.and_eq_true_iff.1 hok
  refine ⟨fun t ht hid => ?_, fun j l hl => of_not_someLabel h hwaits hl⟩
  have htype := List.all_eq_true.1 htypes t ht
  simpa [hid] using htype

end Conditions

/-! ## The token that a task uses up -/

/-- The id of the token that a refresh has deleted, or that a logout has deleted
or is about to delete. -/
def AuthLabel.uses (l : AuthLabel) : Option Int :=
  match l.stage, l.request with
  | .removed row _, .refresh _ => some row.id
  | .drawn (.exchange row _) _, .refresh _ => some row.id
  | .issued (.exchange row _) _ _, .refresh _ => some row.id
  | .confirmed row _, .logout _ => some row.id
  | .removed row _, .logout _ => some row.id
  | _, _ => none

theorem AuthLabel.presents_of_uses {l : AuthLabel} {id : Int} (h : l.uses = some id) :
    l.request.presents.isSome := by
  unfold uses at h
  split at h
  case h_6 => cases h
  all_goals
    next hrequest =>
      rw [hrequest]
      rfl

/-- A logout begins to use a token that is there, and a refresh does with its
`DELETE`. -/
theorem uses_after {w : AuthWorld} {c : AuthChoice} {request : AuthRequest} {stage : Stage}
    {o : AuthOperation} (hcall : MayCall A request stage o) {id : Int}
    (h : AuthLabel.uses ⟨request, stage.after o (o.exec A.passwords w c).1⟩ = some id) :
    AuthLabel.uses ⟨request, stage⟩ = some id ∨
    (∃ headers, request = .logout headers) ∧ (∃ t ∈ w.db.tokens, t.id = id) ∨
    (∃ headers, request = .refresh headers) ∧ o = .query (.deleteToken id) := by
  have hpresents : request.presents.isSome := AuthLabel.presents_of_uses h
  cases hcall with
  | @verifyFirst _ id' hash _ =>
    match (AuthOperation.exec A.passwords w (.query (.findToken id' hash)) c).1, h with
    | .error e, h => cases h
    | .ok none, h => cases h
    | .ok (some row), h => cases h
  | @identify _ row _ =>
    match (AuthOperation.exec A.passwords w (.query (.findUserById row.tokenableId)) c).1, h with
    | .error e, h => cases h
    | .ok none, h => cases h
    | .ok (some user), h => cases h
  | @verifyAgain _ id' hash row user _ =>
    match hr : (AuthOperation.exec A.passwords w (.query (.findToken id' hash)) c).1, h with
    | .error e, h => cases h
    | .ok none, h => cases h
    | .ok (some row'), h =>
      obtain ⟨hmem, _⟩ := mem_of_findToken hr
      cases request with
      | logout headers => exact .inr (.inl ⟨⟨_, rfl⟩, row', hmem, Option.some.inj h⟩)
      | _ => cases h
  | @remove _ row user _ =>
    match (AuthOperation.exec A.passwords w (.query (.deleteToken row.id)) c).1, h with
    | .error e, h => cases h
    | .ok count, h =>
      cases request with
      | logout headers => exact .inl h
      | refresh headers =>
        obtain rfl := Option.some.inj h
        exact .inr (.inr ⟨⟨_, rfl⟩, rfl⟩)
      | _ => cases h
  | refreshDraw => exact .inl h
  | @issue _ grant plain =>
    match (AuthOperation.exec A.passwords w
      (.query (.insertToken (grantedToken A.platform grant.userId plain))) c).1, h with
    | .error e, h => cases h
    | .ok id', h =>
      cases grant with
      | exchange row user =>
        cases request with
        | refresh headers => exact .inl h
        | _ => cases h
      | _ => cases h
  | logoutDone => cases h
  | issued => cases h
  | refused _ => cases h
  | failed => cases h
  | _ => cases hpresents

/-- The id that a task uses is spent, unless a logout is about to delete the
token. -/
theorem StageOk.spent {P : Platform} {db : AuthDatabase} {request : AuthRequest} {stage : Stage}
    (h : StageOk P db request stage) {id : Int} (hu : AuthLabel.uses ⟨request, stage⟩ = some id) :
    Spent id db ∨ logsOut id ⟨request, stage⟩ = true := by
  unfold AuthLabel.uses at hu
  split at hu
  · next hstage hrequest =>
    have hstage : stage = _ := hstage
    subst hstage
    obtain rfl := Option.some.inj hu
    exact .inl h.2
  · next hstage hrequest =>
    have hstage : stage = _ := hstage
    subst hstage
    obtain rfl := Option.some.inj hu
    exact .inl h.2.2
  · next hstage hrequest =>
    have hstage : stage = _ := hstage
    subst hstage
    obtain rfl := Option.some.inj hu
    exact .inl h.1.2.2
  · next hstage hrequest =>
    have hstage : stage = _ := hstage
    have hrequest : request = _ := hrequest
    subst hstage hrequest
    obtain rfl := Option.some.inj hu
    exact .inr (beq_self_eq_true _)
  · next hstage hrequest =>
    have hstage : stage = _ := hstage
    subst hstage
    obtain rfl := Option.some.inj hu
    exact .inl h.2
  · cases hu

theorem StageOk.spent_of_refresh {P : Platform} {db : AuthDatabase} {headers : Headers}
    {stage : Stage} (h : StageOk P db (.refresh headers) stage) {id : Int}
    (hu : AuthLabel.uses ⟨.refresh headers, stage⟩ = some id) : Spent id db :=
  (h.spent hu).resolve_right (by simp [logsOut])

section Uses

variable {w : AuthWorld} {s s' : (authSystem A).State} {a : (authSystem A).Action}

/-- A task that uses a token has used it before the step, or the token is there
and the task begins to use it. -/
theorem uses_step (hreach : Pool.Reach Serialized ((authSystem A).start w) s) (hok : Serialized s a)
    (hstep : Pool.step s a = some s') {j : Nat} {l' : AuthLabel} (hj : labelOf s' j = some l')
    {id : Int} (hu : l'.uses = some id) :
    (∃ l, labelOf s j = some l ∧ l.uses = some id ∧ l.request = l'.request) ∨
    (∃ t ∈ (AuthWorld.db s.world).tokens, t.id = id) ∧
      ((∃ headers, l'.request = .refresh headers) →
        ∀ k l, labelOf s k = some l → logsOut id l = false) ∧
      ∀ k, k ≠ j → labelOf s' k = labelOf s k := by
  obtain ⟨arr, rfl, _, hlabels⟩ | ⟨i, c, request, stage, o, rfl, hcalled, hl, hcall, _, hown, hother⟩ |
    ⟨i, rfl, _, hlabels⟩ := auth_step_cases hreach hstep
  · obtain hold | ⟨_, hstart⟩ := hlabels j l' hj
    · exact .inl ⟨l', hold, hu, rfl⟩
    · obtain ⟨request, stage⟩ := l'
      have hstart : stage = .started := hstart
      subst hstart
      cases hu
  · by_cases hji : j = i
    · subst hji
      obtain rfl := hown l' hj
      obtain hbefore | ⟨⟨headers, rfl⟩, hthere⟩ | ⟨⟨headers, rfl⟩, rfl⟩ := uses_after hcall hu
      · exact .inl ⟨_, hl, hbefore, rfl⟩
      · refine .inr ⟨hthere, fun hrefresh => ?_, hother⟩
        obtain ⟨_, hrefresh⟩ := hrefresh
        cases hrefresh
      · obtain ⟨hthere, hwaits⟩ := hok.1.deletes hreach hcalled
        exact .inr ⟨hthere, fun _ => hwaits, hother⟩
    · rw [hother j hji] at hj
      exact .inl ⟨l', hj, hu, rfl⟩
  · exact .inl ⟨l', hlabels j l' hj, hu, rfl⟩

/-- A refresh uses its token alone. -/
def UsesAlone (s : (authSystem A).State) : Prop :=
  ∀ i j l l' headers id, labelOf s i = some l → labelOf s j = some l' →
    l.request = .refresh headers → l.uses = some id → l'.uses = some id → i = j

theorem UsesAlone.step (hids : TokenIds w.db)
    (hreach : Pool.Reach Serialized ((authSystem A).start w) s) (hs : UsesAlone s)
    (hok : Serialized s a) (hstep : Pool.step s a = some s') : UsesAlone s' := by
  intro i j l l' headers id hi hj hrefresh hu hu'
  have hstages := (sessionsOk_of_reach hids hreach).stage
  by_contra hij
  obtain ⟨l₀, hi₀, hu₀, hrequest⟩ | ⟨⟨t, ht, hid⟩, hwaits, hother⟩ := uses_step hreach hok hstep hi hu
  · obtain ⟨l₀', hj₀, hu₀', _⟩ | ⟨⟨t, ht, hid⟩, _, hother⟩ := uses_step hreach hok hstep hj hu'
    · exact hij (hs i j l₀ l₀' headers id hi₀ hj₀ (hrequest.trans hrefresh) hu₀ hu₀')
    · obtain ⟨request, stage⟩ := l₀
      have hrefresh : request = .refresh headers := hrequest.trans hrefresh
      subst hrefresh
      exact ((hstages i _ stage hi₀).spent_of_refresh hu₀).absent t ht hid
  · rw [hother j (Ne.symm hij)] at hj
    obtain ⟨request, stage⟩ := l'
    obtain hspent | hlogsOut := (hstages j request stage hj).spent hu'
    · exact hspent.absent t ht hid
    · rw [hwaits ⟨headers, hrefresh⟩ j _ hj] at hlogsOut
      cases hlogsOut

theorem usesAlone_of_reach (hids : TokenIds w.db)
    (h : Pool.Reach Serialized ((authSystem A).start w) s) : UsesAlone s := by
  induction h with
  | refl =>
    intro i j l l' headers id hi
    cases hi
  | tail hbefore hlast ih =>
    obtain ⟨a, hok, he⟩ := hlast
    exact ih.step hids hbefore hok he

/-- Nobody begins to use a spent token. -/
theorem not_uses_of_reach (hreach : Pool.Reach Serialized ((authSystem A).start w) s) {j : Nat}
    {id : Int} (hspent : Spent id (AuthWorld.db s.world))
    (hnot : ∀ l, labelOf s j = some l → l.uses ≠ some id) (h : Pool.Reach Serialized s s') :
    ∀ l, labelOf s' j = some l → l.uses ≠ some id := by
  have hboth : Pool.Reach Serialized ((authSystem A).start w) s' ∧
      Spent id (AuthWorld.db s'.world) ∧ ∀ l, labelOf s' j = some l → l.uses ≠ some id := by
    induction h with
    | refl => exact ⟨hreach, hspent, hnot⟩
    | @tail t t' _ hlast ih =>
      obtain ⟨a, hok, he⟩ := hlast
      obtain ⟨ht, hspent, hnot⟩ := ih
      have hlast : Pool.Reach Serialized t t' := .single ⟨a, hok, he⟩
      refine ⟨ht.trans hlast, hspent.of_reach hlast, fun l hl hu => ?_⟩
      obtain ⟨l₀, hl₀, hu₀, _⟩ | ⟨⟨row, hrow, hid⟩, _⟩ := uses_step ht hok he hl hu
      · exact hnot l₀ hl₀ hu₀
      · exact hspent.absent row hrow hid
  exact hboth.2.2

end Uses

/-! ## After a revocation -/

/-- The stages of a login that has found this row. -/
def FromAccount (user : User) : Stage → Prop
  | .account found => found = user
  | .drawn (.password found) _ => found = user
  | .issued (.password found) _ _ => found = user
  | .ended => True
  | .replied => True
  | _ => False

theorem FromAccount.own {headers : Headers} {body : LoginRequest} {stage : Stage} {user : User}
    {o : AuthOperation} (h : FromAccount user stage) (hcall : MayCall A (.login headers body) stage o)
    (r : o.Resp) : FromAccount user (stage.after o r) := by
  cases hcall with
  | loginLookup => cases h
  | loginDraw _ => exact h
  | loginNow => trivial
  | loginUuid => trivial
  | loginLog => trivial
  | @issue _ grant plain =>
    cases grant with
    | password found =>
      match r with
      | .ok id => exact h
      | .error e => trivial
    | _ => cases h
  | issued => trivial
  | refused _ => trivial
  | failed => trivial
  | verifyFirst hp => cases hp
  | verifyAgain hp => cases hp
  | identify hp => cases hp
  | remove hp => cases hp

/-- The stages from which a login or a refresh opens no session of a user with a
token above `q`, if the tokens of the user up to `q` are gone. -/
def Barred (H : Passwords) (userId : Int) (q : Nat) : AuthRequest → Stage → Prop
  | .login _ body, .account user => H.verifyPassword body.password user.password = false
  | .refresh _, .started => True
  | .refresh _, .presented _ => True
  | .refresh _, .identified _ _ => True
  | .refresh _, .confirmed _ _ => True
  | .refresh _, .removed _ user => user.id ≠ userId
  | .refresh _, .drawn grant _ => grant.userId ≠ userId
  | _, .issued grant id _ => grant.userId = userId → id ≤ q
  | _, .ended => True
  | _, .replied => True
  | _, _ => False

/-- The tokens up to `q` are not tokens of the user. -/
def Revoked (userId : Int) (q : Nat) (db : AuthDatabase) : Prop :=
  ∀ id, id ≤ (q : Int) → AllUnder id (fun t => t.tokenableId ≠ userId) db

section Barred

variable {userId : Int} {q : Nat}

theorem Barred.login {headers : Headers} {body : LoginRequest} {stage : Stage} {o : AuthOperation}
    (h : Barred A.passwords userId q (.login headers body) stage)
    (hcall : MayCall A (.login headers body) stage o) (r : o.Resp) :
    Barred A.passwords userId q (.login headers body) (stage.after o r) := by
  cases hcall with
  | loginLookup => cases h
  | @loginDraw _ _ user hverify =>
    have hfalse : A.passwords.verifyPassword body.password user.password = false := h
    rw [hfalse] at hverify
    cases hverify
  | loginNow => trivial
  | loginUuid => trivial
  | loginLog => trivial
  | issue => cases h
  | issued => trivial
  | refused _ => trivial
  | failed => trivial
  | verifyFirst hp => cases hp
  | verifyAgain hp => cases hp
  | identify hp => cases hp
  | remove hp => cases hp

/-- A refresh deletes a token that is there, so the token is none of the revoked
ones. -/
theorem Barred.refresh {w : AuthWorld} {c : AuthChoice} {headers : Headers} {stage : Stage}
    {o : AuthOperation} (h : Barred A.passwords userId q (.refresh headers) stage)
    (hcall : MayCall A (.refresh headers) stage o)
    (hstage : StageOk A.platform w.db (.refresh headers) stage) (hrevoked : Revoked userId q w.db)
    (hold : ∀ id hash, AuthRequest.presentedToken A.platform (.refresh headers) = some (id, hash) →
      id ≤ (q : Int))
    (hthere : ∀ id, o = .query (.deleteToken id) → ∃ t ∈ w.db.tokens, t.id = id) :
    Barred A.passwords userId q (.refresh headers) (stage.after o (o.exec A.passwords w c).1) := by
  cases hcall with
  | @verifyFirst _ id hash _ =>
    match (AuthOperation.exec A.passwords w (.query (.findToken id hash)) c).1 with
    | .error e => trivial
    | .ok none => trivial
    | .ok (some row) => trivial
  | @identify _ row _ =>
    match (AuthOperation.exec A.passwords w (.query (.findUserById row.tokenableId)) c).1 with
    | .error e => trivial
    | .ok none => trivial
    | .ok (some user) => trivial
  | @verifyAgain _ id hash row user _ =>
    match (AuthOperation.exec A.passwords w (.query (.findToken id hash)) c).1 with
    | .error e => trivial
    | .ok none => trivial
    | .ok (some row') => trivial
  | @remove _ row user _ =>
    match (AuthOperation.exec A.passwords w (.query (.deleteToken row.id)) c).1 with
    | .error e => trivial
    | .ok count =>
      obtain ⟨hpresented, howned⟩ := hstage
      obtain ⟨t, ht, hid⟩ := hthere row.id rfl
      have hne : t.tokenableId ≠ userId := (hrevoked row.id (hold _ _ hpresented)).rows t ht hid
      have heq : t.tokenableId = user.id := howned.rows t ht hid
      rw [heq] at hne
      exact hne
  | refreshDraw => exact h
  | @issue _ grant plain =>
    match (AuthOperation.exec A.passwords w
      (.query (.insertToken (grantedToken A.platform grant.userId plain))) c).1 with
    | .error e => trivial
    | .ok id => exact fun heq => absurd heq h
  | issued => trivial
  | refused _ => trivial
  | failed => trivial

/-- Who is not about to open a session when the tokens are revoked. -/
theorem Barred.of_login {P : Platform} {H : Passwords} {db : AuthDatabase} {headers : Headers}
    {body : LoginRequest} {stage : Stage} {user : User} {newHash : String}
    (hstage : StageOk P db (.login headers body) stage) (hfrom : FromAccount user stage)
    (hpassword : user.password ≠ newHash)
    (hnot : opensSession H user.id newHash ⟨.login headers body, stage⟩ = false) :
    Barred H user.id db.tokenSequence (.login headers body) stage := by
  cases stage with
  | account found =>
    obtain rfl : found = user := hfrom
    have hnot : (found.id == found.id && found.password != newHash &&
        H.verifyPassword body.password found.password) = false := hnot
    have hverify : H.verifyPassword body.password found.password = false := by
      simpa [hpassword] using hnot
    exact hverify
  | drawn grant plain =>
    cases grant with
    | password found =>
      obtain rfl : found = user := hfrom
      have hnot : (found.id == found.id && found.password != newHash) = false := hnot
      simp [hpassword] at hnot
    | _ => cases hfrom
  | issued grant id plain => exact fun _ => hstage.2.drawn
  | ended => trivial
  | replied => trivial
  | _ => cases hfrom

theorem Barred.of_refresh {P : Platform} {H : Passwords} {db : AuthDatabase} {headers : Headers}
    {stage : Stage} {newHash : String} (hstage : StageOk P db (.refresh headers) stage)
    (hnot : opensSession H userId newHash ⟨.refresh headers, stage⟩ = false) :
    Barred H userId db.tokenSequence (.refresh headers) stage := by
  cases stage with
  | started => trivial
  | presented row => trivial
  | identified row user => trivial
  | confirmed row user => trivial
  | removed row user =>
    have hnot : (user.id == userId) = false := hnot
    show user.id ≠ userId
    simpa using hnot
  | drawn grant plain =>
    cases grant with
    | registration user => cases hstage
    | password user =>
      obtain ⟨_, _, hlogin⟩ := hstage
      cases hlogin
    | exchange row user =>
      have hnot : (user.id == userId) = false := hnot
      show user.id ≠ userId
      simpa using hnot
  | issued grant id plain => exact fun _ => hstage.2.drawn
  | ended => trivial
  | replied => trivial
  | _ => cases hstage

end Barred

/-- The `DELETE` of a reset leaves no earlier token of its user. -/
theorem revoked_of_deleteTokensOf {w : AuthWorld} {c : AuthChoice}
    {userId : Int} {type : String} {count : Nat}
    (htypes : ∀ t ∈ w.db.tokens, t.tokenableId = userId → t.tokenableType = type)
    (h : (AuthOperation.exec A.passwords w (.query (.deleteTokensOf userId type)) c).1 = .ok count) :
    Revoked userId w.db.tokenSequence
      (AuthOperation.exec A.passwords w (.query (.deleteTokensOf userId type)) c).2.db := by
  obtain ⟨_, hdb⟩ := AuthOperation.exec_query_ok h
  rw [hdb]
  refine fun id hid => ⟨fun t ht _ howner => ?_, hid⟩
  obtain ⟨hmem, hkept⟩ := List.mem_filter.1 ht
  simp [howner, htypes t hmem howner] at hkept

section Revocation

variable {ok : (authSystem A).State → (authSystem A).Action → Prop} {w : AuthWorld}
  {s s' : (authSystem A).State} {a : (authSystem A).Action}

/-- A reset comes to its last stage with the `DELETE` of all tokens of its
user. -/
theorem revoke_step (hreach : Pool.Reach ok ((authSystem A).start w) s)
    (hstep : Pool.step s a = some s') {i : Nat} {body : VerifyAndResetPasswordRequest} {user : User}
    {newHash : String}
    (hbefore : ¬ ∃ user newHash, labelOf s i = some ⟨.resetPassword body, .revoked user newHash⟩)
    (hafter : labelOf s' i = some ⟨.resetPassword body, .revoked user newHash⟩) :
    ∃ c count, a = .act i c ∧
      Pool.called s a = some (⟨.resetPassword body, .updated user newHash⟩,
        .query (.deleteTokensOf user.id TOKENABLE_TYPE)) ∧
      labelOf s i = some ⟨.resetPassword body, .updated user newHash⟩ ∧
      (AuthOperation.exec A.passwords s.world
        (.query (.deleteTokensOf user.id TOKENABLE_TYPE)) c).1 = .ok count ∧
      s'.world = (AuthOperation.exec A.passwords s.world
        (.query (.deleteTokensOf user.id TOKENABLE_TYPE)) c).2 ∧
      ∀ j, j ≠ i → labelOf s' j = labelOf s j := by
  obtain ⟨arr, rfl, _, hlabels⟩ | ⟨j, c, request, stage, o, rfl, hcalled, hl, hcall, hworld, hown,
    hother⟩ | ⟨j, rfl, _, hlabels⟩ := auth_step_cases hreach hstep
  · obtain hold | ⟨_, hstart⟩ := hlabels i _ hafter
    · exact absurd ⟨_, _, hold⟩ hbefore
    · cases hstart
  · by_cases hij : i = j
    · subst hij
      obtain ⟨rfl, hstage⟩ := AuthLabel.mk.inj (hown _ hafter)
      cases hcall with
      | resetLookup =>
        match (AuthOperation.exec A.passwords s.world (.query (.findUserByEmail body.email)) c).1,
          hstage with
        | .error e, hstage => cases hstage
        | .ok none, hstage => cases hstage
        | .ok (some found), hstage => cases hstage
      | resetHash =>
        match (AuthOperation.exec A.passwords s.world (.hashPassword body.newPassword) c).1,
          hstage with
        | .error e, hstage => cases hstage
        | .ok hash, hstage => cases hstage
      | @resetUpdate _ found hash =>
        match (AuthOperation.exec A.passwords s.world (.query (.updatePassword found.id hash)) c).1,
          hstage with
        | .error e, hstage => cases hstage
        | .ok count, hstage => cases hstage
      | @resetRevoke _ found hash =>
        match hr : (AuthOperation.exec A.passwords s.world
          (.query (.deleteTokensOf found.id TOKENABLE_TYPE)) c).1, hstage with
        | .error e, hstage => cases hstage
        | .ok count, hstage =>
          cases hstage
          exact ⟨c, count, rfl, hcalled, hl, hr, hworld, hother⟩
      | @issue _ grant plain =>
        match (AuthOperation.exec A.passwords s.world
          (.query (.insertToken (grantedToken A.platform grant.userId plain))) c).1, hstage with
        | .error e, hstage => cases hstage
        | .ok id, hstage => cases hstage
      | resetDone => cases hstage
      | issued => cases hstage
      | refused _ => cases hstage
      | failed => cases hstage
      | verifyFirst hp => cases hp
      | verifyAgain hp => cases hp
      | identify hp => cases hp
      | remove hp => cases hp
    · rw [hother i hij] at hafter
      exact absurd ⟨_, _, hafter⟩ hbefore
  · exact absurd ⟨_, _, hlabels i _ hafter⟩ hbefore

end Revocation

/-! ## Replies -/

/-- A task is about to send a new token. -/
def Obtained (s : (authSystem A).State) (j : Nat) (request : AuthRequest) (token : String) : Prop :=
  ∃ response, Replies s j request (.ok response) ∧ response.data.token = some token

/-- A request presents the token with this id. -/
def Presents (P : Platform) (request : AuthRequest) (id : Int) : Prop :=
  ∃ hash, request.presentedToken P = some (id, hash)

theorem parseToken_tokenText {P : Platform} {id id' : Int} {plain hash : String}
    (h : parseToken P (tokenText id plain) = some (id', hash)) : id' = id := by
  obtain ⟨idText, plain', hsplit, hid, _⟩ := parseToken_eq_some.1 h
  rw [tokenText, Text.splitOnce_toString (by decide) (by decide)] at hsplit
  obtain ⟨rfl, _⟩ := Prod.mk.inj (Option.some.inj hsplit)
  exact Text.parseI64_toString hid

/-- A token does not authenticate a user to whom no row under its id belongs. -/
theorem userId_ne_of_ownedBy {w : AuthWorld} (hids : TokenIds w.db) {owner userId id : Int}
    (howned : OwnedBy owner id w.db)
    (hrevoked : owner = userId → AllUnder id (fun t => t.tokenableId ≠ userId) w.db)
    {plain : String} {principal : Principal}
    (hauth : authenticated A w (tokenText id plain) = some principal) : principal.userId ≠ userId := by
  intro hid
  obtain ⟨row, hmem, hparse, hrow, _⟩ := (authenticated_iff hids).1 ⟨principal, hauth, hid⟩
  have hrowId : row.id = id := parseToken_tokenText hparse
  have howner : row.tokenableId = owner := howned.rows row hmem hrowId
  exact (hrevoked (howner.symm.trans hrow)).rows row hmem hrowId hrow

section Replies

variable {ok : (authSystem A).State → (authSystem A).Action → Prop} {w : AuthWorld}
  {s s' : (authSystem A).State} {i j : Nat}

theorem Obtained.issued (hs : Pool.Reach ok ((authSystem A).start w) s) {request : AuthRequest}
    {token : String} (h : Obtained s j request token) :
    ∃ grant id plain, labelOf s j = some ⟨request, .issued grant id plain⟩ ∧
      token = tokenText id plain := by
  obtain ⟨response, hreply, htoken⟩ := h
  obtain ⟨stage, hl, hcall⟩ := hreply.mayCall hs
  cases hcall with
  | @issued _ grant id plain =>
    refine ⟨grant, id, plain, hl, ?_⟩
    cases grant with
    | registration user => exact (Option.some.inj htoken).symm
    | password user => exact (Option.some.inj htoken).symm
    | exchange row user => exact (Option.some.inj htoken).symm
  | logoutDone => cases htoken
  | resetDone => cases htoken

variable (hids : TokenIds w.db) (hs : Pool.Reach ok ((authSystem A).start w) s)
include hids hs

theorem Replies.refreshed {headers : Headers} {response : Response}
    (h : Replies s j (.refresh headers) (.ok response)) :
    ∃ l id, labelOf s j = some l ∧ l.request = .refresh headers ∧ l.uses = some id ∧
      Presents A.platform (.refresh headers) id ∧ Spent id (AuthWorld.db s.world) := by
  obtain ⟨stage, hl, hcall⟩ := h.mayCall hs
  cases hcall with
  | @issued _ grant id plain =>
    have hstage := (sessionsOk_of_reach hids hs).stage j _ _ hl
    obtain ⟨hgrant, _⟩ := hstage
    cases grant with
    | registration user => cases hgrant
    | password user =>
      obtain ⟨_, _, hlogin⟩ := hgrant
      cases hlogin
    | exchange row user =>
      obtain ⟨_, hpresented, hspent⟩ := hgrant
      exact ⟨_, row.id, hl, rfl, rfl, ⟨_, hpresented⟩, hspent⟩

theorem Replies.loggedOut {headers : Headers} {response : Response}
    (h : Replies s j (.logout headers) (.ok response)) :
    ∃ l id, labelOf s j = some l ∧ l.request = .logout headers ∧ l.uses = some id ∧
      Presents A.platform (.logout headers) id ∧ Spent id (AuthWorld.db s.world) := by
  obtain ⟨stage, hl, hcall⟩ := h.mayCall hs
  have hstage := (sessionsOk_of_reach hids hs).stage j _ _ hl
  cases hcall with
  | @logoutDone _ row user =>
    obtain ⟨hpresented, hspent⟩ := hstage
    exact ⟨_, row.id, hl, rfl, rfl, ⟨_, hpresented⟩, hspent⟩
  | @issued _ grant id plain =>
    obtain ⟨hgrant, _⟩ := hstage
    cases grant with
    | registration user => cases hgrant
    | password user =>
      obtain ⟨_, _, hlogin⟩ := hgrant
      cases hlogin
    | exchange row user =>
      obtain ⟨⟨_, hrefresh⟩, _⟩ := hgrant
      cases hrefresh

theorem Replies.reset {body : VerifyAndResetPasswordRequest} {response : Response}
    (h : Replies s j (.resetPassword body) (.ok response)) :
    ∃ user newHash, labelOf s j = some ⟨.resetPassword body, .revoked user newHash⟩ := by
  obtain ⟨stage, hl, hcall⟩ := h.mayCall hs
  have hstage := (sessionsOk_of_reach hids hs).stage j _ _ hl
  cases hcall with
  | resetDone => exact ⟨_, _, hl⟩
  | @issued _ grant id plain =>
    obtain ⟨hgrant, _⟩ := hstage
    cases grant with
    | registration user => cases hgrant
    | password user =>
      obtain ⟨_, _, hlogin⟩ := hgrant
      cases hlogin
    | exchange row user =>
      obtain ⟨⟨_, hrefresh⟩, _⟩ := hgrant
      cases hrefresh

end Replies

/-! ## The guarantee -/

/-- What a reset, a logout and a refresh promise in a run. -/
structure SessionsEnd {ok : (authSystem A).State → (authSystem A).Action → Prop}
    {s : (authSystem A).State} (run : Pool.Run ok s) : Prop where
  /-- A successful reset has deleted the tokens of its user at moment `d`.  From
  its reply on the user is not authenticated by a token that comes from a login
  which had found an earlier password by then, or from a refresh of a token
  that had been issued by then. -/
  reset : ∀ r i body response, r ≤ run.length →
    Replies (run.state r) i (.resetPassword body) (.ok response) →
    ∃ d user newHash, d < r ∧
      labelOf (run.state d) i = some ⟨.resetPassword body, .updated user newHash⟩ ∧
      labelOf (run.state (d + 1)) i = some ⟨.resetPassword body, .revoked user newHash⟩ ∧
      ∀ n k j request token principal, n ≤ k → r ≤ k → k ≤ run.length →
        Obtained (run.state n) j request token →
        ((∃ m headers login account, m ≤ d ∧ request = .login headers login ∧
            labelOf (run.state m) j = some ⟨request, .account account⟩ ∧
            account.id = user.id ∧ account.password ≠ newHash) ∨
          ∃ headers id, request = .refresh headers ∧ Presents A.platform request id ∧
            id ≤ (AuthWorld.db (run.state d).world).tokenSequence) →
        authenticated A (run.state k).world token = some principal → principal.userId ≠ user.id
  /-- From the reply of a successful logout on neither its token authenticates
  nor one that a refresh of it has given. -/
  logout : ∀ r i headers response, r ≤ run.length →
    Replies (run.state r) i (.logout headers) (.ok response) →
    ∀ k token, r ≤ k → k ≤ run.length →
      (bearerToken headers = .ok token ∨
        ∃ n j headers' id, n ≤ k ∧ Obtained (run.state n) j (.refresh headers') token ∧
          Presents A.platform (.logout headers) id ∧ Presents A.platform (.refresh headers') id) →
      authenticated A (run.state k).world token = none
  /-- Two successful refreshes of one token are the same. -/
  refresh : ∀ n n' j j' headers headers' response response' id, n ≤ run.length → n' ≤ run.length →
    Replies (run.state n) j (.refresh headers) (.ok response) →
    Replies (run.state n') j' (.refresh headers') (.ok response') →
    Presents A.platform (.refresh headers) id → Presents A.platform (.refresh headers') id → j = j'

section Guarantee

variable {w : AuthWorld} {s s' : (authSystem A).State}

/-- A task that is barred stays so while the tokens are revoked. -/
theorem barred_of_reach (hids : TokenIds w.db)
    (hs : Pool.Reach Serialized ((authSystem A).start w) s) (h : Pool.Reach Serialized s s')
    {userId : Int} {q : Nat} (hrevoked : Revoked userId q (AuthWorld.db s.world)) {j : Nat}
    {request : AuthRequest}
    (hkind : (∃ headers body, request = .login headers body ∧ j < s.next) ∨
      ∃ headers id, request = .refresh headers ∧ Presents A.platform request id ∧ id ≤ (q : Int))
    (hbarred : ∀ stage, labelOf s j = some ⟨request, stage⟩ →
      Barred A.passwords userId q request stage) :
    ∀ stage, labelOf s' j = some ⟨request, stage⟩ → Barred A.passwords userId q request stage := by
  refine fun stage hl => stage_invariant (K := Barred A.passwords userId q request) hs h ?_
    (fun t c stage o ht hst hok hcalled hlt hcall hbefore => ?_) hbarred hl
  · obtain ⟨_, _, _, hlt⟩ | ⟨headers, _, rfl, _⟩ := hkind
    · exact .inl hlt
    · exact .inr trivial
  · obtain ⟨headers, body, rfl, _⟩ | ⟨headers, id, rfl, ⟨hash, hpresented⟩, hle⟩ := hkind
    · exact hbefore.login hcall _
    · refine hbefore.refresh hcall ((sessionsOk_of_reach hids ht).stage j _ stage hlt)
        (fun id' hid' => (hrevoked id' hid').of_reach hst) (fun id' hash' hpresented' => ?_) ?_
      · rw [hpresented] at hpresented'
        cases hpresented'
        exact hle
      · rintro id' rfl
        exact (hok.1.deletes ht hcalled).1

/-- A refresh shares its token with nobody, not even at different moments. -/
theorem eq_of_uses (hids : TokenIds w.db)
    (hs : Pool.Reach Serialized ((authSystem A).start w) s) (h : Pool.Reach Serialized s s')
    {i j : Nat} {l l' : AuthLabel} {id : Int} (hspent : Spent id (AuthWorld.db s.world))
    (hi : labelOf s i = some l) (hu : l.uses = some id) (hj : labelOf s' j = some l')
    (hu' : l'.uses = some id)
    (hrefresh : (∃ headers, l.request = .refresh headers) ∨ ∃ headers, l'.request = .refresh headers) :
    i = j := by
  by_contra hij
  refine not_uses_of_reach hs hspent (fun l₀ hl₀ hu₀ => hij ?_) h l' hj hu'
  have halone := usesAlone_of_reach hids hs
  obtain ⟨headers, hl⟩ | ⟨headers, hl'⟩ := hrefresh
  · exact halone i j l l₀ headers id hi hl₀ hl hu hu₀
  · have hrequest := request_of_reach hs h hl₀ hj
    exact (halone j i l₀ l headers id hl₀ hi (hrequest.symm.trans hl') hu₀ hu).symm

variable (hids : TokenIds w.db) (run : Pool.Run Serialized ((authSystem A).start w))
include hids

theorem refresh_once {n n' j j' : Nat} {headers headers' : Headers} {response response' : Response}
    {id : Int} (hn : n ≤ run.length) (hn' : n' ≤ run.length)
    (h : Replies (run.state n) j (.refresh headers) (.ok response))
    (h' : Replies (run.state n') j' (.refresh headers') (.ok response'))
    (hpresents : Presents A.platform (.refresh headers) id)
    (hpresents' : Presents A.platform (.refresh headers') id) : j = j' := by
  obtain ⟨l, m, hl, hrequest, hu, ⟨hash, hm⟩, hspent⟩ := h.refreshed hids (run.reach_first hn)
  obtain ⟨l', m', hl', hrequest', hu', ⟨hash', hm'⟩, hspent'⟩ := h'.refreshed hids (run.reach_first hn')
  obtain ⟨_, hid⟩ := hpresents
  obtain ⟨_, hid'⟩ := hpresents'
  rw [hid] at hm
  rw [hid'] at hm'
  cases hm
  cases hm'
  obtain hle | hle := Nat.le_total n n'
  · exact eq_of_uses hids (run.reach_first hn) (run.reach hle hn') hspent hl hu hl' hu'
      (.inl ⟨_, hrequest⟩)
  · exact (eq_of_uses hids (run.reach_first hn') (run.reach hle hn) hspent' hl' hu' hl hu
      (.inl ⟨_, hrequest'⟩)).symm

theorem refresh_ne_logout {n r i j : Nat} {headers headers' : Headers}
    {response response' : Response} {id : Int} (hn : n ≤ run.length) (hr : r ≤ run.length)
    (h : Replies (run.state r) i (.logout headers) (.ok response))
    (h' : Replies (run.state n) j (.refresh headers') (.ok response'))
    (hpresents : Presents A.platform (.logout headers) id) :
    ¬ Presents A.platform (.refresh headers') id := by
  rintro ⟨_, hid'⟩
  obtain ⟨_, hid⟩ := hpresents
  obtain ⟨l, m, hl, hrequest, hu, ⟨hash, hm⟩, hspent⟩ := h.loggedOut hids (run.reach_first hr)
  obtain ⟨l', m', hl', hrequest', hu', ⟨hash', hm'⟩, hspent'⟩ := h'.refreshed hids (run.reach_first hn)
  rw [hid] at hm
  rw [hid'] at hm'
  cases hm
  cases hm'
  obtain hle | hle := Nat.le_total n r
  · obtain rfl := eq_of_uses hids (run.reach_first hn) (run.reach hle hr) hspent' hl' hu' hl hu
      (.inl ⟨_, hrequest'⟩)
    have hsame := request_of_reach (run.reach_first hn) (run.reach hle hr) hl' hl
    rw [hrequest, hrequest'] at hsame
    cases hsame
  · obtain rfl := eq_of_uses hids (run.reach_first hr) (run.reach hle hn) hspent hl hu hl' hu'
      (.inr ⟨_, hrequest'⟩)
    have hsame := request_of_reach (run.reach_first hr) (run.reach hle hn) hl hl'
    rw [hrequest, hrequest'] at hsame
    cases hsame

theorem logout_ends {r i k : Nat} {headers : Headers} {response : Response} {token : String}
    (hr : r ≤ run.length) (h : Replies (run.state r) i (.logout headers) (.ok response))
    (hk : r ≤ k) (hlength : k ≤ run.length) (htoken : bearerToken headers = .ok token) :
    authenticated A (run.state k).world token = none := by
  obtain ⟨l, id, _, _, _, ⟨hash, hpresented⟩, hspent⟩ := h.loggedOut hids (run.reach_first hr)
  rw [presentedToken_eq rfl htoken] at hpresented
  exact (hspent.of_reach (run.reach hk hlength)).not_authenticated hpresented

/-- A token of a login or a refresh that a reset ends has an id from before, or
belongs to another user. -/
theorem id_le_of_reset {d i n j : Nat} {body : VerifyAndResetPasswordRequest} {user : User}
    {newHash : String} (hdn : d < n) (hn : n ≤ run.length)
    (hd : labelOf (run.state d) i = some ⟨.resetPassword body, .updated user newHash⟩)
    (hwaits : ∀ k l, labelOf (run.state d) k = some l →
      opensSession A.passwords user.id newHash l = false)
    (hother : ∀ k, k ≠ i → labelOf (run.state (d + 1)) k = labelOf (run.state d) k)
    (hrevoked : Revoked user.id (AuthWorld.db (run.state d).world).tokenSequence
      (AuthWorld.db (run.state (d + 1)).world))
    {request : AuthRequest} {grant : Grant} {id : Int} {plain : String}
    (hl : labelOf (run.state n) j = some ⟨request, .issued grant id plain⟩)
    (hold : (∃ m headers login account, m ≤ d ∧ request = .login headers login ∧
        labelOf (run.state m) j = some ⟨request, .account account⟩ ∧
        account.id = user.id ∧ account.password ≠ newHash) ∨
      ∃ headers id, request = .refresh headers ∧ Presents A.platform request id ∧
        id ≤ (AuthWorld.db (run.state d).world).tokenSequence) :
    grant.userId = user.id → id ≤ (AuthWorld.db (run.state d).world).tokenSequence := by
  have hle : d ≤ run.length := by omega
  have hle' : d + 1 ≤ run.length := by omega
  have hstages := (sessionsOk_of_reach hids (run.reach_first hle)).stage
  have hkept {stage : Stage} (hrequest : ∀ body, request ≠ .resetPassword body)
      (hj : labelOf (run.state (d + 1)) j = some ⟨request, stage⟩) :
      labelOf (run.state d) j = some ⟨request, stage⟩ := by
    by_cases hji : j = i
    · subst hji
      have hsame := request_of_reach (run.reach_first hle) (run.reach (Nat.le_succ d) hle') hd hj
      exact absurd hsame (hrequest body)
    · rw [← hother j hji]
      exact hj
  have hbarred : ∀ stage, labelOf (run.state n) j = some ⟨request, stage⟩ → Barred A.passwords user.id
      (AuthWorld.db (run.state d).world).tokenSequence request stage := by
    refine barred_of_reach hids (run.reach_first hle') (run.reach hdn hn) hrevoked ?_
      fun stage hj => ?_
    · obtain ⟨m, headers, login, account, hm, hrequest, hjm, _⟩ | ⟨headers, id', h⟩ := hold
      · have hlt := labelOf_lt (run.reach_first (Nat.le_trans hm hle)) hjm
        have hnext := (run.reach (Nat.le_succ_of_le hm) hle').next_le
        exact .inl ⟨headers, login, hrequest, Nat.lt_of_lt_of_le hlt hnext⟩
      · exact .inr ⟨headers, id', h⟩
    · obtain ⟨m, headers, login, account, hm, rfl, hjm, hid, hpassword⟩ | ⟨headers, _, rfl, _⟩ := hold
      · have hj := hkept (by rintro _ ⟨⟩) hj
        have hfrom : FromAccount account stage := by
          refine stage_invariant (run.reach_first (Nat.le_trans hm hle)) (run.reach hm hle)
            (.inl (labelOf_lt (run.reach_first (Nat.le_trans hm hle)) hjm))
            (fun t c stage' o _ _ _ _ _ hcall hbefore => hbefore.own hcall _) (fun stage' hl => ?_) hj
          rw [hjm] at hl
          cases hl
          exact rfl
        rw [← hid]
        refine Barred.of_login (hstages j _ stage hj) hfrom hpassword ?_
        rw [hid]
        exact hwaits j _ hj
      · have hj := hkept (by rintro _ ⟨⟩) hj
        exact Barred.of_refresh (hstages j _ stage hj) (hwaits j _ hj)
  have hissued := hbarred _ hl
  cases request with
  | login headers body => exact hissued
  | refresh headers => exact hissued
  | _ =>
    obtain ⟨_, _, _, _, _, h, _⟩ | ⟨_, _, h, _⟩ := hold
    · cases h
    · cases h

/-- In a run whose refreshes and revocations meet the conditions every session
ends as it should. -/
theorem sessions_end : SessionsEnd run := by
  refine ⟨fun r i body response hr hreply => ?_,
    fun r i headers response hr hreply k token hk hlength htoken => ?_,
    fun n n' j j' headers headers' response response' id hn hn' h h' => refresh_once hids run hn hn' h h'⟩
  · have hdone := hreply.reset hids (run.reach_first hr)
    obtain ⟨d, hd, hnot, user, newHash, hd'⟩ := run.exists_begin
      (p := fun s => ∃ user newHash, labelOf s i = some ⟨.resetPassword body, .revoked user newHash⟩)
      (by rintro ⟨_, _, h⟩; cases h) hdone
    have hle : d ≤ run.length := by omega
    have hle' : d + 1 ≤ run.length := by omega
    obtain ⟨a, hok, hstep⟩ := run.steps d hle'
    obtain ⟨c, count, rfl, hcalled, hbefore, hanswer, hworld, hother⟩ :=
      revoke_step (run.reach_first hle) hstep hnot hd'
    obtain ⟨htypes, hwaits⟩ := hok.2.deletes (run.reach_first hle) hcalled
    have hrevoked := revoked_of_deleteTokensOf htypes hanswer
    rw [← hworld] at hrevoked
    refine ⟨d, user, newHash, hd, hbefore, hd', fun n k j request token principal hnk hrk hk hobtained
      hold hauth => ?_⟩
    have hn : n ≤ run.length := Nat.le_trans hnk hk
    obtain ⟨grant, id, plain, hl, rfl⟩ := hobtained.issued (run.reach_first hn)
    have howned := ((sessionsOk_of_reach hids (run.reach_first hn)).stage j _ _ hl).2
    have hid : grant.userId = user.id → id ≤ (AuthWorld.db (run.state d).world).tokenSequence := by
      by_cases hnd : n ≤ d
      · exact fun _ => (howned.of_reach (run.reach hnd hle)).drawn
      · exact id_le_of_reset hids run (Nat.lt_of_not_le hnd) hn hbefore hwaits hother hrevoked hl hold
    refine userId_ne_of_ownedBy (sessionsOk_of_reach hids (run.reach_first hk)).ids
      (howned.of_reach (run.reach hnk hk)) (fun howner => ?_) hauth
    exact (hrevoked id (hid howner)).of_reach (run.reach (by omega) hk)
  · obtain htoken | ⟨n, j, headers', id, hn, ⟨response', hreply', _⟩, hpresents, hpresents'⟩ := htoken
    · exact logout_ends hids run hr hreply hk hlength htoken
    · exact absurd hpresents' (refresh_ne_logout hids run (Nat.le_trans hn hlength) hr hreply hreply'
        hpresents)

end Guarantee

/-- The request that presents the token of `sampleToken`. -/
def sampleRefresh : AuthRequest := .refresh (presenting (tokenText 1 samplePlain))

/-- A reset by the user of that token. -/
def sampleReset : VerifyAndResetPasswordRequest := ⟨sampleUser.email, "ayam", "password2"⟩

/-- The tables with the token, and with an answer of its user. -/
def answeredWorld : AuthWorld :=
  { db :=
    { users := [{ sampleUser with securityAnswer := some "$argon2id$ayam" }]
      tokens := [sampleToken none]
      userSequence := 7
      tokenSequence := 1 } }

/-- A refresh, then a reset: both are about to be answered. -/
def refreshThenReset : List ((authSystem sampleAuth).Action) :=
  [.arrive (.request sampleRefresh), .arrive (.request (.resetPassword sampleReset))] ++
    authCalls 0 6 otherPlain ++ authCalls 1 4 ""

/-- Two refreshes of one token that both check it before either deletes it. -/
def refreshTwice : List ((authSystem sampleAuth).Action) :=
  [.arrive (.request sampleRefresh), .arrive (.request sampleRefresh)] ++
    authCalls 0 3 "" ++ authCalls 1 3 "" ++ authCalls 0 3 otherPlain ++ authCalls 1 3 "third"

/-- The sessions of that refresh end. -/
theorem sessions_end_sample :
    ∃ run : Pool.Run Serialized ((authSystem sampleAuth).start answeredWorld),
      Obtained (run.state run.length) 0 sampleRefresh (tokenText 2 otherPlain) ∧
      Replies (run.state run.length) 1 (.resetPassword sampleReset)
        (.ok (okWithMessage "password reset successfully" (.message "all sessions invalidated"))) ∧
      SessionsEnd run := by
  have hplay : ((Pool.play Serialized ((authSystem sampleAuth).start answeredWorld)
      refreshThenReset).map fun s => (replyAt s 0, replyAt s 1)) =
      some (some (sampleRefresh, .ok (okWithMessage "token refreshed"
          (.tokenOnly (tokenText 2 otherPlain)))),
        some (.resetPassword sampleReset, .ok (okWithMessage "password reset successfully"
          (.message "all sessions invalidated")))) := by
    decide +kernel
  obtain ⟨s, hs, he⟩ := Pool.exists_of_play hplay
  obtain ⟨run, rfl⟩ := hs.exists_run
  obtain ⟨hrefresh, hreset⟩ := Prod.mk.inj he
  have hids : TokenIds answeredWorld.db :=
    ⟨(tokenIds_sampleAuthWorld none).drawn, (tokenIds_sampleAuthWorld none).nodup⟩
  exact ⟨run, ⟨_, replies_of_replyAt hrefresh, rfl⟩, replies_of_replyAt hreset, sessions_end hids run⟩

/-- Two refreshes of one token can both succeed. -/
theorem refreshed_twice :
    ∃ run : Pool.Run NoFault ((authSystem sampleAuth).start (sampleAuthWorld none)),
      ¬ SessionsEnd run := by
  have hplay : ((Pool.play NoFault ((authSystem sampleAuth).start (sampleAuthWorld none))
      refreshTwice).map fun s => (replyAt s 0, replyAt s 1)) =
      some (some (sampleRefresh, .ok (okWithMessage "token refreshed"
          (.tokenOnly (tokenText 2 otherPlain)))),
        some (sampleRefresh, .ok (okWithMessage "token refreshed"
          (.tokenOnly (tokenText 3 "third"))))) := by
    decide +kernel
  obtain ⟨s, hs, he⟩ := Pool.exists_of_play hplay
  obtain ⟨run, rfl⟩ := hs.exists_run
  obtain ⟨hfirst, hsecond⟩ := Prod.mk.inj he
  refine ⟨run, fun h => ?_⟩
  have hpresents : Presents sampleAuth.platform sampleRefresh 1 := ⟨sampleDigest, by decide +kernel⟩
  have hsame := h.refresh _ _ 0 1 _ _ _ _ 1 (Nat.le_refl _) (Nat.le_refl _)
    (replies_of_replyAt hfirst) (replies_of_replyAt hsecond) hpresents hpresents
  cases hsame

end KlassGateway.Auth
