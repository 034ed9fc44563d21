import KlassGateway.AuthStages
import KlassGateway.Guarantees.Authentication
/-!
# Registrations

`register` looks for the e-mail address as it was sent, inserts the trimmed
one, and does not turn a unique violation into a conflict.

* `registered_email_belongs`: as long as every insertion of a user finds its
  address free, a registered address belongs to its user: a login with it
  succeeds if it has no white space around it, and every other registration of
  it is refused and changes nothing.
* `registered_email_rejected`: a login with the address that was registered
  fails where it has a blank at its end.
-/

namespace KlassGateway.Auth

open Lib Lib.Prog Api Db

variable {A : AuthState}

/-! ## The conditions -/

/-- The tables accept the texts and the digest of a statement. -/
def accepts (db : AuthDatabase) : AuthOperation → Bool
  | .query (.findUserByEmail email) => (Database.textFault none email).isNone
  | .query (.insertUser data) => (AuthDatabase.userTextFault data).isNone
  | .query (.insertToken data) => (db.insertTokenFault data).isNone
  | _ => true

/-- Every statement is accepted. -/
def Accepted (s : (authSystem A).State) (a : (authSystem A).Action) : Prop :=
  (calledAt s a).all fun lo => accepts s.world.db lo.2

/-- Every insertion of a user finds its e-mail address free. -/
def FindsFreeEmail (s : (authSystem A).State) (a : (authSystem A).Action) : Prop :=
  (calledAt s a).all fun lo => match lo.2 with
    | .query (.insertUser data) => (AuthDatabase.userByEmail s.world.db data.email).isNone
    | _ => true

/-- Nobody resets the password of the user with this address. -/
def SparesPassword (email : String) (s : (authSystem A).State) (a : (authSystem A).Action) : Prop :=
  (calledAt s a).all fun lo => match lo.2 with
    | .query (.updatePassword id _) =>
      (AuthDatabase.userByEmail s.world.db email).all fun u => u.id != id
    | _ => true

/-- The steps of the runs that the theorem is about. -/
def Orderly (email : String) (s : (authSystem A).State) (a : (authSystem A).Action) : Prop :=
  (NoFault s a ∧ Accepted s a) ∧ FindsFreeEmail s a ∧ SparesPassword email s a

instance (email : String) (s : (authSystem A).State) (a : (authSystem A).Action) :
    Decidable (Orderly email s a) :=
  inferInstanceAs (Decidable ((NoFault s a ∧ _ = true) ∧ _ = true ∧ _ = true))

/-! ## What a registration has done -/

/-- The user that a registration has inserted. -/
def Stage.registered : Stage → Option User
  | .created user => some user
  | .drawn (.registration user) _ => some user
  | .issued (.registration user) _ _ => some user
  | _ => none

/-- The user of a registration is in the table, with its password unless that
has been reset. -/
structure Created (H : Passwords) (db : AuthDatabase) (email : String) (body : RegisterRequest)
    (user : User) : Prop where
  valid : body.fault = none
  address : user.email = Text.trim body.email
  text : Database.textFault none user.email = none
  password : ∃ salt, user.password = H.argon2Hash body.password salt
  present : (db.userByEmail user.email).isSome
  same : user.email = email → db.userByEmail email = some user

/-- What is known of a registration at each stage. -/
def RegisterOk (H : Passwords) (db : AuthDatabase) (email : String) (body : RegisterRequest) :
    Stage → Prop
  | .started => True
  | .absent => body.fault = none
  | .account _ => True
  | .hashed hash => body.fault = none ∧ ∃ salt, hash = H.argon2Hash body.password salt
  | .created user => Created H db email body user
  | .drawn (.registration user) _ => Created H db email body user
  | .issued (.registration user) _ _ => Created H db email body user
  | .replied => True
  | _ => False

theorem RegisterOk.created {H : Passwords} {db : AuthDatabase} {email : String}
    {body : RegisterRequest} {stage : Stage} {user : User}
    (h : RegisterOk H db email body stage) (hu : stage.registered = some user) :
    Created H db email body user := by
  unfold Stage.registered at hu
  split at hu
  all_goals
    cases hu
    try exact h

/-- Tables in which a user stays keep what is known. -/
theorem Created.mono {H : Passwords} {db db' : AuthDatabase} {email : String}
    {body : RegisterRequest} {user : User} (h : Created H db email body user)
    (hpresent : ∀ e, (db.userByEmail e).isSome → (db'.userByEmail e).isSome)
    (hsame : ∀ u, db.userByEmail email = some u → db'.userByEmail email = some u) :
    Created H db' email body user :=
  ⟨h.valid, h.address, h.text, h.password, hpresent _ h.present, fun he => hsame _ (h.same he)⟩

theorem RegisterOk.mono {H : Passwords} {db db' : AuthDatabase} {email : String}
    {body : RegisterRequest} {stage : Stage} (h : RegisterOk H db email body stage)
    (hpresent : ∀ e, (db.userByEmail e).isSome → (db'.userByEmail e).isSome)
    (hsame : ∀ u, db.userByEmail email = some u → db'.userByEmail email = some u) :
    RegisterOk H db' email body stage := by
  cases stage with
  | created user => exact Created.mono h hpresent hsame
  | drawn grant plain =>
    cases grant with
    | registration user => exact Created.mono h hpresent hsame
    | _ => exact h
  | issued grant id plain =>
    cases grant with
    | registration user => exact Created.mono h hpresent hsame
    | _ => exact h
  | _ => exact h

/-! ## One call -/

theorem textFault_weaken {n : Nat} {s : String} (h : Database.textFault (some n) s = none) :
    Database.textFault none s = none := by
  unfold Database.textFault at h ⊢
  split at h
  · cases h
  · next hzero => rw [if_neg hzero]

theorem userTextFault_email {data : InsertUser} (h : AuthDatabase.userTextFault data = none) :
    Database.textFault none data.email = none := by
  unfold AuthDatabase.userTextFault at h
  simp only [Option.or_eq_none_iff] at h
  exact textFault_weaken h.1.1.2

/-- An insertion with accepted texts and a free address succeeds. -/
theorem insertUser_free {db : AuthDatabase} {data : InsertUser}
    (htext : AuthDatabase.userTextFault data = none) (hfree : db.userByEmail data.email = none) :
    db.insertUser data = (.ok (db.newUser data),
      { db with users := db.users ++ [db.newUser data], userSequence := db.userSequence + 1 }) := by
  have hfault : db.insertUserFault data = none := by
    rw [AuthDatabase.insertUserFault, htext, hfree]
    rfl
  rw [AuthDatabase.insertUser, hfault]

/-- The new user is there. -/
theorem userByEmail_insertUser {w : AuthWorld} {c : AuthChoice} (hfault : c.fault = .none)
    {data : InsertUser} (htext : AuthDatabase.userTextFault data = none)
    (hfree : w.db.userByEmail data.email = none) :
    (AuthOperation.exec A.passwords w (.query (.insertUser data)) c).2.db.userByEmail data.email =
      some (w.db.newUser data) := by
  rw [AuthOperation.exec_query hfault]
  simp only [AuthQuery.exec, insertUser_free htext hfree]
  have hnone : Table.find User.email data.email w.db.users = none := hfree
  show Table.find User.email data.email (w.db.users ++ [w.db.newUser data]) = _
  rw [Table.find_append, hnone]
  simp [AuthDatabase.newUser]

/-- A call of a registration leads from one stage to the next. -/
theorem RegisterOk.own {email : String} {body : RegisterRequest} {stage : Stage} {w : AuthWorld}
    {o : AuthOperation} {c : AuthChoice}
    (h : RegisterOk A.passwords w.db email body stage) (hcall : MayCall A (.register body) stage o)
    (hfault : c.fault = .none) (hsalt : c.salt.isOk) (haccept : accepts w.db o)
    (hfree : ∀ data, o = .query (.insertUser data) → w.db.userByEmail data.email = none) :
    RegisterOk A.passwords (o.exec A.passwords w c).2.db email body
      (stage.after o (o.exec A.passwords w c).1) := by
  cases hcall with
  | registerInvalid _ => trivial
  | registerConflict => trivial
  | registerLookup hvalid =>
    have htext : Database.textFault none body.email = none := by simpa [accepts] using haccept
    rw [AuthOperation.exec_query hfault]
    simp only [AuthQuery.exec, htext]
    cases w.db.userByEmail body.email with
    | none => exact hvalid
    | some user => trivial
  | registerHash =>
    cases hs : c.salt with
    | error e =>
      rw [hs] at hsalt
      cases hsalt
    | ok salt =>
      simp only [AuthOperation.exec, hs]
      exact ⟨h, salt, rfl⟩
  | @registerInsert _ hash =>
    have htext : AuthDatabase.userTextFault (registeredUser body hash) = none := by
      simpa [accepts] using haccept
    have hnone := hfree _ rfl
    obtain ⟨hvalid, hhash⟩ := h
    have hnew := userByEmail_insertUser (A := A) hfault htext hnone
    rw [AuthOperation.exec_query hfault] at hnew ⊢
    simp only [AuthQuery.exec, insertUser_free htext hnone] at hnew ⊢
    refine ⟨hvalid, rfl, userTextFault_email htext, hhash, ?_, ?_⟩
    · exact Option.isSome_iff_exists.2 ⟨_, hnew⟩
    · rintro rfl
      exact hnew
  | registerDraw => exact h
  | @issue _ grant plain =>
    cases grant with
    | registration user =>
      have hnone : w.db.insertTokenFault
          (grantedToken A.platform (Grant.userId (.registration user)) plain) = none := by
        simpa [accepts] using haccept
      rw [AuthOperation.exec_query hfault]
      simp only [AuthQuery.exec, AuthDatabase.insertToken, hnone]
      exact h.mono (fun _ he => he) fun _ he => he
    | password user => cases h
    | exchange row user => cases h
  | issued => trivial
  | verifyFirst hp => cases hp
  | verifyAgain hp => cases hp
  | identify hp => cases hp
  | remove hp => cases hp
  | refused hr => cases hr
  | failed => cases h

/-- A user that is in the table stays there, the one that is spared with its
password. -/
theorem userByEmail_exec {email : String} {w : AuthWorld} {o : AuthOperation} (c : AuthChoice)
    (hspare : ∀ id hash, o = .query (.updatePassword id hash) →
      ∀ u, w.db.userByEmail email = some u → u.id ≠ id) :
    (∀ e, (w.db.userByEmail e).isSome →
      ((o.exec A.passwords w c).2.db.userByEmail e).isSome) ∧
    ∀ u, w.db.userByEmail email = some u →
      (o.exec A.passwords w c).2.db.userByEmail email = some u := by
  obtain hdb | ⟨q, rfl, hdb⟩ := o.exec_db A.passwords w c
  · rw [hdb]
    exact ⟨fun _ h => h, fun _ h => h⟩
  · rw [hdb]
    refine ⟨fun e he => ?_, fun u hu => ?_⟩
    · obtain ⟨u, hu⟩ := Option.isSome_iff_exists.1 he
      obtain h | ⟨hash, _, h⟩ := AuthQuery.exec_userByEmail hu q
      · exact Option.isSome_iff_exists.2 ⟨_, h⟩
      · exact Option.isSome_iff_exists.2 ⟨_, h⟩
    · obtain h | ⟨hash, rfl, _⟩ := AuthQuery.exec_userByEmail hu q
      · exact h
      · exact absurd rfl (hspare _ _ rfl u hu)

/-- A registration has inserted its user before a call or inserts it with the
call. -/
theorem registered_after {body : RegisterRequest} {stage : Stage} {o : AuthOperation}
    (hcall : MayCall A (.register body) stage o) {r : o.Resp} {user : User}
    (h : (stage.after o r).registered = some user) :
    stage.registered = some user ∨ ∃ hash, o = .query (.insertUser (registeredUser body hash)) := by
  cases hcall with
  | registerInsert => exact .inr ⟨_, rfl⟩
  | registerDraw => exact .inl h
  | @issue _ grant plain =>
    match r with
    | .error e => cases h
    | .ok id =>
      cases grant with
      | registration u => exact .inl h
      | password u => cases h
      | exchange row u => cases h
  | registerLookup _ =>
    match r with
    | .error e => cases h
    | .ok none => cases h
    | .ok (some u) => cases h
  | registerHash =>
    match r with
    | .error e => cases h
    | .ok hash => cases h
  | registerInvalid _ => cases h
  | registerConflict => cases h
  | issued => cases h
  | failed => cases h
  | verifyFirst hp => cases hp
  | verifyAgain hp => cases hp
  | identify hp => cases hp
  | remove hp => cases hp
  | refused hr => cases hr

theorem addForeign_users (db : AuthDatabase) (data : NewToken) (expiresAt : Option DateTime) :
    (db.addForeign data expiresAt).users = db.users := by
  unfold AuthDatabase.addForeign AuthDatabase.insertToken
  split <;> rfl

/-! ## Every run -/

/-- What holds of the registrations of a state. -/
structure RegistrationsOk (email : String) (s : (authSystem A).State) : Prop where
  stage : ∀ i body stage, labelOf s i = some ⟨.register body, stage⟩ →
    RegisterOk A.passwords (AuthWorld.db s.world) email body stage
  unique : ∀ i j body body' stage stage' user user',
    labelOf s i = some ⟨.register body, stage⟩ → labelOf s j = some ⟨.register body', stage'⟩ →
    stage.registered = some user → stage'.registered = some user' →
    user.email = user'.email → i = j

/-- A task that has not inserted a user with this address. -/
def NotCreator (email : String) (s : (authSystem A).State) (i : Nat) : Prop :=
  ∀ body stage user, labelOf s i = some ⟨.register body, stage⟩ →
    stage.registered = some user → user.email ≠ email

section Steps

variable {email : String} {w : AuthWorld} {s s' : (authSystem A).State} {a : (authSystem A).Action}

/-- What the conditions say of a call. -/
theorem Orderly.act {i : Nat} {c : AuthChoice} {l : AuthLabel} {o : AuthOperation}
    (hok : Orderly email s (.act i c)) (hcalled : Pool.called s (.act i c) = some (l, o)) :
    c.fault = .none ∧ c.salt.isOk ∧ accepts (AuthWorld.db s.world) o ∧
    (∀ data, o = .query (.insertUser data) →
      (AuthWorld.db s.world).userByEmail data.email = none) ∧
    ∀ id hash, o = .query (.updatePassword id hash) →
      ∀ u, (AuthWorld.db s.world).userByEmail email = some u → u.id ≠ id := by
  obtain ⟨⟨hfault, haccept⟩, hfree, hspare⟩ := hok
  have hcalled : calledAt s (.act i c) = some (l, o) := hcalled
  simp only [Accepted, FindsFreeEmail, SparesPassword, hcalled, Option.all_some] at haccept hfree hspare
  obtain ⟨hfault, hsalt⟩ := hfault.act
  refine ⟨hfault, hsalt, haccept, ?_, ?_⟩
  · rintro data rfl
    simpa using hfree
  · rintro id hash rfl u hu
    have hne : (u.id != id) = true := by simpa [hu] using hspare
    simpa using hne

/-- Every step keeps what holds of the registrations. -/
theorem RegistrationsOk.step (hreach : Pool.Reach (Orderly email) ((authSystem A).start w) s)
    (hs : RegistrationsOk email s) (hok : Orderly email s a) (hstep : Pool.step s a = some s') :
    RegistrationsOk email s' := by
  obtain ⟨arr, rfl, hworld, hlabels⟩ | ⟨i, c, request, stage₀, o, rfl, hcalled, hl, hcall,
    hworld, hown, hother⟩ |
    ⟨i, rfl, hworld, hlabels⟩ := auth_step_cases hreach hstep
  · have hdb : (AuthWorld.db s'.world).users = (AuthWorld.db s.world).users := by
      obtain h | ⟨data, expiresAt, _, h⟩ := hworld
      · rw [h]
      · rw [h]
        exact addForeign_users _ data expiresAt
    refine ⟨fun i body stage hi => ?_, fun i j body body' stage stage' u u' hi hj hu hu' => ?_⟩
    · obtain hold | ⟨_, hstart⟩ := hlabels i _ hi
      · refine (hs.stage i body stage hold).mono (fun e he => ?_) fun u hu => ?_
        · simpa only [AuthDatabase.userByEmail, hdb] using he
        · simpa only [AuthDatabase.userByEmail, hdb] using hu
      · have hstart : stage = .started := hstart
        rw [hstart]
        trivial
    · obtain hold | ⟨_, hstart⟩ := hlabels i _ hi
      · obtain hold' | ⟨_, hstart⟩ := hlabels j _ hj
        · exact hs.unique i j body body' stage stage' u u' hold hold' hu hu'
        · have hstart : stage' = .started := hstart
          rw [hstart] at hu'
          cases hu'
      · have hstart : stage = .started := hstart
        rw [hstart] at hu
        cases hu
  · obtain ⟨hfault, hsalt, haccept, hfree, hspare⟩ := hok.act hcalled
    obtain ⟨hpresent, hsame⟩ := userByEmail_exec (A := A) (w := s.world) (o := o) c hspare
    rw [← hworld] at hpresent hsame
    have hstage (j : Nat) (body : RegisterRequest) (stage : Stage)
        (hj : labelOf s' j = some ⟨.register body, stage⟩) :
        RegisterOk A.passwords (AuthWorld.db s'.world) email body stage := by
      by_cases hji : j = i
      · subst hji
        obtain ⟨rfl, rfl⟩ := AuthLabel.mk.inj (hown _ hj)
        have hbefore := hs.stage j _ stage₀ hl
        rw [hworld]
        exact hbefore.own hcall hfault hsalt haccept hfree
      · rw [hother j hji] at hj
        exact (hs.stage j body stage hj).mono hpresent hsame
    -- The acting task has its user already, or the address was free.
    have hnew (j : Nat) (hji : j ≠ i) (body body' : RegisterRequest) (stage stage' : Stage)
        (u u' : User) (hi : labelOf s' i = some ⟨.register body, stage⟩)
        (hj : labelOf s' j = some ⟨.register body', stage'⟩) (hu : stage.registered = some u)
        (hu' : stage'.registered = some u') (he : u.email = u'.email) : i = j := by
      rw [hother j hji] at hj
      have hcreated := (hstage i body stage hi).created hu
      obtain ⟨rfl, rfl⟩ := AuthLabel.mk.inj (hown _ hi)
      obtain hbefore | ⟨hash, rfl⟩ := registered_after hcall hu
      · exact hs.unique i j _ body' stage₀ stage' u u' hl hj hbefore hu' he
      · have hnone := hfree _ rfl
        have hsome := ((hs.stage j body' stage' hj).created hu').present
        rw [← he, hcreated.address] at hsome
        rw [show (registeredUser body hash).email = Text.trim body.email from rfl] at hnone
        rw [hnone] at hsome
        cases hsome
    refine ⟨hstage, fun j j' body body' stage stage' u u' hj hj' hu hu' he => ?_⟩
    by_cases hji : j = i
    · by_cases hji' : j' = i
      · rw [hji, hji']
      · subst hji
        exact hnew j' hji' body body' stage stage' u u' hj hj' hu hu' he
    · by_cases hji' : j' = i
      · subst hji'
        exact (hnew j hji body' body stage' stage u' u hj' hj hu' hu he.symm).symm
      · rw [hother j hji] at hj
        rw [hother j' hji'] at hj'
        exact hs.unique j j' body body' stage stage' u u' hj hj' hu hu' he
  · refine ⟨fun i body stage hi => ?_, fun i j body body' stage stage' u u' hi hj => ?_⟩
    · rw [hworld]
      exact hs.stage i body stage (hlabels i _ hi)
    · exact hs.unique i j body body' stage stage' u u' (hlabels i _ hi) (hlabels j _ hj)

theorem registrationsOk_of_reach (h : Pool.Reach (Orderly email) ((authSystem A).start w) s) :
    RegistrationsOk email s := by
  induction h with
  | refl =>
    refine ⟨fun i body stage hi => ?_, fun i j body body' stage stage' u u' hi => ?_⟩
    · cases hi
    · cases hi
  | tail hbefore hlast ih =>
    obtain ⟨a, hok, he⟩ := hlast
    exact ih.step hbefore hok he

/-- While the address has a user, nobody else inserts one. -/
theorem NotCreator.step {i : Nat}
    (hreach : Pool.Reach (Orderly email) ((authSystem A).start w) s)
    (hs : ((AuthWorld.db s.world).userByEmail email).isSome ∧ NotCreator email s i)
    (hok : Orderly email s a) (hstep : Pool.step s a = some s') :
    ((AuthWorld.db s'.world).userByEmail email).isSome ∧ NotCreator email s' i := by
  obtain ⟨hsome, hnot⟩ := hs
  have hreach' : Pool.Reach (Orderly email) ((authSystem A).start w) s' :=
    hreach.tail ⟨a, hok, hstep⟩
  obtain ⟨arr, rfl, hworld, hlabels⟩ | ⟨j, c, request, stage₀, o, rfl, hcalled, hl, hcall,
    hworld, hown, hother⟩ | ⟨j, rfl, hworld, hlabels⟩ := auth_step_cases hreach hstep
  · have hdb : (AuthWorld.db s'.world).users = (AuthWorld.db s.world).users := by
      obtain h | ⟨data, expiresAt, _, h⟩ := hworld
      · rw [h]
      · rw [h]
        exact addForeign_users _ data expiresAt
    refine ⟨by simpa only [AuthDatabase.userByEmail, hdb] using hsome, fun body stage u hi hu => ?_⟩
    obtain hold | ⟨_, hstart⟩ := hlabels i _ hi
    · exact hnot body stage u hold hu
    · have hstart : stage = .started := hstart
      rw [hstart] at hu
      cases hu
  · obtain ⟨_, _, _, hfree, hspare⟩ := hok.act hcalled
    obtain ⟨hpresent, _⟩ := userByEmail_exec (A := A) (w := s.world) (o := o) c hspare
    rw [← hworld] at hpresent
    refine ⟨hpresent email hsome, fun body stage u hi hu he => ?_⟩
    by_cases hji : j = i
    · subst hji
      have hcreated := ((registrationsOk_of_reach hreach').stage j body stage hi).created hu
      obtain ⟨rfl, rfl⟩ := AuthLabel.mk.inj (hown _ hi)
      obtain hbefore | ⟨hash, rfl⟩ := registered_after hcall hu
      · exact hnot body stage₀ u hl hbefore he
      · have hnone := hfree _ rfl
        rw [show (registeredUser body hash).email = Text.trim body.email from rfl,
          ← hcreated.address, he] at hnone
        rw [hnone] at hsome
        cases hsome
    · rw [hother i (Ne.symm hji)] at hi
      exact hnot body stage u hi hu he
  · refine ⟨by rw [hworld]; exact hsome, fun body stage u hi => ?_⟩
    exact hnot body stage u (hlabels i _ hi)

theorem NotCreator.of_reach {i : Nat}
    (hreach : Pool.Reach (Orderly email) ((authSystem A).start w) s)
    (hs : ((AuthWorld.db s.world).userByEmail email).isSome ∧ NotCreator email s i)
    (h : Pool.Reach (Orderly email) s s') : NotCreator email s' i := by
  have hboth : Pool.Reach (Orderly email) ((authSystem A).start w) s' ∧
      ((AuthWorld.db s'.world).userByEmail email).isSome ∧ NotCreator email s' i := by
    induction h with
    | refl => exact ⟨hreach, hs⟩
    | tail _ hlast ih =>
      obtain ⟨a, hok, he⟩ := hlast
      exact ⟨ih.1.tail ⟨a, hok, he⟩, NotCreator.step ih.1 ih.2 hok he⟩
  exact hboth.2.2

/-- The user of a registration keeps its row. -/
theorem userByEmail_of_reach {u : User}
    (hreach : Pool.Reach (Orderly email) ((authSystem A).start w) s)
    (hu : (AuthWorld.db s.world).userByEmail email = some u) (h : Pool.Reach (Orderly email) s s') :
    (AuthWorld.db s'.world).userByEmail email = some u := by
  have hboth : Pool.Reach (Orderly email) ((authSystem A).start w) s' ∧
      (AuthWorld.db s'.world).userByEmail email = some u := by
    induction h with
    | refl => exact ⟨hreach, hu⟩
    | @tail t t' _ hlast ih =>
      obtain ⟨a, hok, he⟩ := hlast
      refine ⟨ih.1.tail ⟨a, hok, he⟩, ?_⟩
      obtain ⟨arr, rfl, hworld, _⟩ | ⟨j, c, request, stage₀, o, rfl, hcalled, _, _, hworld, _⟩ |
        ⟨j, rfl, hworld, _⟩ := auth_step_cases ih.1 he
      · obtain h | ⟨data, expiresAt, _, h⟩ := hworld
        · rw [h]
          exact ih.2
        · rw [h]
          show (AuthDatabase.addForeign _ data expiresAt).userByEmail email = some u
          rw [AuthDatabase.userByEmail, addForeign_users]
          exact ih.2
      · obtain ⟨_, _, _, _, hspare⟩ := Orderly.act hok hcalled
        rw [hworld]
        exact (userByEmail_exec (A := A) (w := t.world) (o := o) c hspare).2 u ih.2
      · rw [hworld]
        exact ih.2
  exact hboth.2

end Steps

/-! ## A login -/

/-- A valid registration has an address and a password that a login accepts. -/
theorem login_checks {body : RegisterRequest} (h : body.fault = none) :
    isBlank body.email = false ∧ body.password.isEmpty = false := by
  unfold RegisterRequest.fault at h
  split at h
  · cases h
  · split at h
    · cases h
    · next hemail =>
      split at h
      · cases h
      · next hlength =>
        refine ⟨by simpa using hemail, ?_⟩
        by_contra hempty
        have hempty : body.password = "" := by simpa using hempty
        rw [hempty] at hlength
        exact hlength (by decide)

theorem runAlone_findByEmail {w : AuthWorld} {c : AuthChoice} (hfault : c.fault = .none)
    {email : String} (htext : Database.textFault none email = none) :
    runAlone A.passwords c (findByEmail email).run w =
      (some (.ok (w.db.userByEmail email)), w) := by
  have hlookup : AuthQuery.exec w.db (.findUserByEmail email) =
      (.ok (w.db.userByEmail email), w.db) := by
    simp only [AuthQuery.exec, htext]
  refine (runAlone_statement hfault _ (.findUserByEmail email) w).trans ?_
  rw [hlookup]
  rfl

/-- A token is issued when the table accepts it. -/
theorem runAlone_issueToken {w : AuthWorld} {c : AuthChoice} (hfault : c.fault = .none)
    {userId : Int}
    (hnew : w.db.insertTokenFault (grantedToken A.platform userId c.plainToken) = none) :
    ∃ w', runAlone A.passwords c (internalError (issueToken A.platform userId "auth" none)).run w =
      (some (.ok (tokenText (w.db.tokenSequence + 1) c.plainToken)), w') := by
  obtain ⟨db, hinsert⟩ : ∃ db,
      AuthQuery.exec w.db (.insertToken (grantedToken A.platform userId c.plainToken)) =
        (.ok ((w.db.tokenSequence : Int) + 1), db) := by
    simp only [AuthQuery.exec, AuthDatabase.insertToken, hnew]
    exact ⟨_, rfl⟩
  have hinserted := runAlone_statement (H := A.passwords) hfault
    (fun e => "failed to insert token: " ++ e.toText)
    (.insertToken (grantedToken A.platform userId c.plainToken)) w
  rw [hinsert] at hinserted
  have hissue : runAlone A.passwords c (issueToken A.platform userId "auth" none).run w =
      (some (.ok (tokenText (w.db.tokenSequence + 1) c.plainToken)), { w with db }) := by
    have hdraw : runAlone A.passwords c (liftM generatePlainToken : AuthResult String String).run w =
        (some (.ok c.plainToken), w) := rfl
    refine (runAlone_run_bind_ok hdraw).trans ?_
    exact (runAlone_run_bind_ok hinserted).trans rfl
  refine ⟨{ w with db }, (runAlone_run_mapErr _ _ _).trans ?_⟩
  rw [hissue]
  rfl

/-- A login with the address and the password of a registration, while its
calls succeed. -/
theorem login_of_created (hH : A.passwords.Exact) {w : AuthWorld} {body : RegisterRequest}
    {user : User} (h : Created A.passwords w.db body.email body user)
    (htrim : Text.trim body.email = body.email) (headers : Headers) {c : AuthChoice}
    (hfault : c.fault = .none)
    (hnew : w.db.insertTokenFault (grantedToken A.platform user.id c.plainToken) = none) :
    (runAlone A.passwords c (login A headers ⟨body.email, body.password⟩).run w).1 =
      some (.ok (okWithMessage "logged in successfully"
        (.auth user.toResource (tokenText (w.db.tokenSequence + 1) c.plainToken)))) := by
  obtain ⟨hblank, hempty⟩ := login_checks h.valid
  have haddress : user.email = body.email := h.address.trans htrim
  obtain ⟨salt, hpassword⟩ := h.password
  have hverify : A.passwords.verifyPassword body.password user.password = true := by
    rw [hpassword]
    exact (hH.verifyPassword_iff _ _ _).2 rfl
  have htext := h.text
  rw [haddress] at htext
  obtain ⟨w', hissue⟩ := runAlone_issueToken (A := A) hfault hnew
  unfold login
  rw [if_neg (by rw [hblank]; decide), if_neg (by rw [hempty]; decide), runAlone_run_bind,
    runAlone_findByEmail hfault htext, h.same haddress]
  show (runAlone A.passwords c (ite (A.passwords.verifyPassword body.password user.password = true) _
    (rejectLogin A body.email headers)).run w).1 = _
  rw [if_pos hverify, runAlone_run_bind, hissue]
  rfl

/-! ## The guarantee -/

section Guarantee

variable {email : String} {w : AuthWorld} {s : (authSystem A).State}

/-- A state of the same run as `s`, before it or after it. -/
def SameRun (email : String) (w : AuthWorld) (s s' : (authSystem A).State) : Prop :=
  Pool.Reach (Orderly email) s s' ∨
    Pool.Reach (Orderly email) ((authSystem A).start w) s' ∧ Pool.Reach (Orderly email) s' s

theorem SameRun.reach {s' : (authSystem A).State}
    (hs : Pool.Reach (Orderly email) ((authSystem A).start w) s) (h : SameRun email w s s') :
    Pool.Reach (Orderly email) ((authSystem A).start w) s' :=
  h.elim (fun h => hs.trans h) fun h => h.1

/-- Beside the task that has inserted the user with an address nobody else of the
run inserts one. -/
theorem notCreator_of_sameRun (hs : Pool.Reach (Orderly email) ((authSystem A).start w) s)
    {i j : Nat} (hji : j ≠ i) {body : RegisterRequest} {stage : Stage} {user : User}
    (hi : labelOf s i = some ⟨.register body, stage⟩) (hu : stage.registered = some user)
    (he : user.email = email) {s' : (authSystem A).State} (h : SameRun email w s s') :
    NotCreator email s' j := by
  have hsOk := registrationsOk_of_reach hs
  obtain hafter | ⟨hs', hbefore⟩ := h
  · have hsome := ((hsOk.stage i body stage hi).created hu).present
    rw [he] at hsome
    refine NotCreator.of_reach hs ⟨hsome, fun body' stage' user' hj hu' he' => hji ?_⟩ hafter
    exact hsOk.unique j i body' body stage' stage user' user hj hi hu' hu (he'.trans he.symm)
  · intro body' stage' user' hj hu' he'
    have hOk' := registrationsOk_of_reach hs'
    have hsome := ((hOk'.stage j body' stage' hj).created hu').present
    rw [he'] at hsome
    have hnot : NotCreator email s' i := fun body'' stage'' user'' hi'' hu'' he'' => hji
      (hOk'.unique j i body' body'' stage' stage'' user' user'' hj hi'' hu' hu''
        (he'.trans he''.symm))
    exact NotCreator.of_reach hs' ⟨hsome, hnot⟩ hbefore body stage user hi hu he

/-- A registration of a taken address is refused. -/
theorem reply_of_notCreator {s' : (authSystem A).State}
    (hs' : Pool.Reach (Orderly email) ((authSystem A).start w) s') {j : Nat}
    (hnot : NotCreator email s' j) {body : RegisterRequest}
    (htrim : Text.trim body.email = email) {response : Except AppError Response}
    (hreply : Replies s' j (.register body) response) :
    response = .error (.conflict "email already registered") ∨
      ∃ e, body.fault = some e ∧ response = .error e := by
  obtain ⟨stage, hj, hcall⟩ := hreply.mayCall hs'
  have hstage := (registrationsOk_of_reach hs').stage j body stage hj
  cases hcall with
  | registerInvalid hfault => exact .inr ⟨_, hfault, rfl⟩
  | registerConflict => exact .inl rfl
  | @issued _ grant id plain =>
    cases grant with
    | registration user =>
      exact absurd (hstage.address.trans htrim) (hnot body _ user hj rfl)
    | password user => cases hstage
    | exchange row user => cases hstage
  | refused hr => cases hr
  | failed => cases hstage

/-- Beside a registration that has its account, another one of the address changes no row. -/
theorem unchanged_of_sameRun (hs : Pool.Reach (Orderly email) ((authSystem A).start w) s)
    {i j : Nat} (hji : j ≠ i) {body : RegisterRequest} {stage : Stage} {user : User}
    (hi : labelOf s i = some ⟨.register body, stage⟩) (hu : stage.registered = some user)
    (he : user.email = email) {s₁ s₂ : (authSystem A).State}
    (hrun : Pool.Reach (Orderly email) s s₁ ∨
      Pool.Reach (Orderly email) ((authSystem A).start w) s₁ ∧ Pool.Reach (Orderly email) s₂ s)
    {c : AuthChoice} {body' : RegisterRequest} {stage' : Stage}
    (htrim : Text.trim body'.email = email) (hj : labelOf s₁ j = some ⟨.register body', stage'⟩)
    (hok : Orderly email s₁ (.act j c)) (hstep : Pool.step s₁ (.act j c) = some s₂) :
    (AuthWorld.db s₂.world).users = (AuthWorld.db s₁.world).users ∧
    (AuthWorld.db s₂.world).tokens = (AuthWorld.db s₁.world).tokens := by
  have hsame : SameRun email w s s₁ := hrun.imp_right fun h => ⟨h.1, .head ⟨_, hok, hstep⟩ h.2⟩
  have hreach := hsame.reach hs
  have hnot := notCreator_of_sameRun hs hji hi hu he hsame
  have hstage := (registrationsOk_of_reach hreach).stage j body' stage' hj
  obtain ⟨_, ha, _⟩ | ⟨_, _, request, stage₀, o, ha, hcalled, hl, hcall, hworld, _, hother⟩ |
    ⟨_, ha, _⟩ := auth_step_cases hreach hstep
  · cases ha
  · cases ha
    rw [hj] at hl
    obtain ⟨rfl, rfl⟩ := AuthLabel.mk.inj (Option.some.inj hl)
    obtain ⟨hfault, _, haccept, hfree, _⟩ := hok.act hcalled
    rw [hworld]
    cases hcall with
    | registerInvalid _ => exact ⟨rfl, rfl⟩
    | registerConflict => exact ⟨rfl, rfl⟩
    | registerHash => exact ⟨rfl, rfl⟩
    | registerDraw => exact ⟨rfl, rfl⟩
    | issued => exact ⟨rfl, rfl⟩
    | registerLookup _ =>
      obtain hdb | ⟨q, hq, hdb⟩ := AuthOperation.exec_db A.passwords s₁.world c
        (.query (.findUserByEmail body'.email))
      · rw [hdb]
        exact ⟨rfl, rfl⟩
      · cases hq
        rw [hdb]
        simp only [AuthQuery.exec]
        split <;> exact ⟨rfl, rfl⟩
    | @registerInsert _ hash =>
      exfalso
      have hnone : (AuthWorld.db s₁.world).userByEmail email = none := by
        rw [← htrim]
        exact hfree _ rfl
      obtain hafter | ⟨_, hbefore⟩ := hrun
      · have huser := ((registrationsOk_of_reach hs).stage i body stage hi).created hu
        have hkept := userByEmail_of_reach hs (huser.same he) hafter
        rw [hnone] at hkept
        cases hkept
      · -- The address was free before, so the other task inserts it neither before nor after.
        have hsome : ((AuthWorld.db s₂.world).userByEmail email).isSome := by
          have htext : AuthDatabase.userTextFault (registeredUser body' hash) = none := by
            simpa [accepts] using haccept
          have hnew := userByEmail_insertUser (A := A) (w := s₁.world) hfault htext (hfree _ rfl)
          rw [← hworld, show (registeredUser body' hash).email = email from htrim] at hnew
          exact Option.isSome_iff_exists.2 ⟨_, hnew⟩
        have hfreeOf : NotCreator email s₂ i := fun body'' stage'' user'' hi'' hu'' he'' => by
          rw [hother i (Ne.symm hji)] at hi''
          have hpresent := ((registrationsOk_of_reach hreach).stage i body'' stage'' hi'').created hu''
          have hsome := hpresent.present
          rw [he'', hnone] at hsome
          cases hsome
        have hreach₂ := hreach.tail ⟨_, hok, hstep⟩
        exact NotCreator.of_reach hreach₂ ⟨hsome, hfreeOf⟩ hbefore body stage user hi hu he
    | @issue _ grant plain =>
      exfalso
      cases grant with
      | registration user' =>
        exact hnot body' _ user' hj rfl (hstage.address.trans htrim)
      | password user' => cases hstage
      | exchange row user' => cases hstage
    | verifyFirst hp => cases hp
    | verifyAgain hp => cases hp
    | identify hp => cases hp
    | remove hp => cases hp
    | refused hr => cases hr
    | failed => cases hstage
  · cases ha

/-- A registered address belongs to its user: a login with it succeeds, if it has
no white space around it, and nobody else registers it. -/
theorem registered_email_belongs (hH : A.passwords.Exact) {body : RegisterRequest}
    (hs : Pool.Reach (Orderly (Text.trim body.email)) ((authSystem A).start w) s) {i : Nat}
    {response : Response} (hreply : Replies s i (.register body) (.ok response)) :
    ∃ user token,
      response = createdWithMessage "registered successfully" (.auth user token) ∧
      (Text.trim body.email = body.email → ∀ s' headers c,
        Pool.Reach (Orderly (Text.trim body.email)) s s' → c.fault = .none →
        (AuthWorld.db s'.world).insertTokenFault
          (grantedToken A.platform user.id c.plainToken) = none →
        ∃ token', (runAlone A.passwords c (login A headers ⟨body.email, body.password⟩).run
          s'.world).1 = some (.ok (okWithMessage "logged in successfully" (.auth user token')))) ∧
      ∀ j body', j ≠ i → Text.trim body'.email = Text.trim body.email →
        (∀ s' response', SameRun (Text.trim body.email) w s s' →
          Replies s' j (.register body') response' →
          response' = .error (.conflict "email already registered") ∨
            ∃ e, body'.fault = some e ∧ response' = .error e) ∧
        ∀ s₁ s₂ c stage, (Pool.Reach (Orderly (Text.trim body.email)) s s₁ ∨
            Pool.Reach (Orderly (Text.trim body.email)) ((authSystem A).start w) s₁ ∧
              Pool.Reach (Orderly (Text.trim body.email)) s₂ s) →
          labelOf s₁ j = some ⟨.register body', stage⟩ →
          Orderly (Text.trim body.email) s₁ (.act j c) → Pool.step s₁ (.act j c) = some s₂ →
          (AuthWorld.db s₂.world).users = (AuthWorld.db s₁.world).users ∧
            (AuthWorld.db s₂.world).tokens = (AuthWorld.db s₁.world).tokens := by
  obtain ⟨stage, hi, hcall⟩ := hreply.mayCall hs
  have hstage := (registrationsOk_of_reach hs).stage i body stage hi
  cases hcall with
  | @issued _ grant id plain =>
    cases grant with
    | registration user =>
      refine ⟨user.toResource, _, rfl, fun htrim s' headers c hreach hfault hnew => ?_,
        fun j body' hji htrim => ⟨fun s' response' hrun hreply' => ?_,
          fun s₁ s₂ c stage' hrun hj hok hstep => ?_⟩⟩
      · have hkept := userByEmail_of_reach hs (hstage.same hstage.address) hreach
        have hcreated : Created A.passwords (AuthWorld.db s'.world) body.email body user := by
          refine ⟨hstage.valid, hstage.address, hstage.text, hstage.password, ?_, fun _ => ?_⟩
          · rw [hstage.address, hkept]
            rfl
          · rw [← htrim]
            exact hkept
        exact ⟨_, login_of_created hH hcreated htrim headers hfault hnew⟩
      · exact reply_of_notCreator (hrun.reach hs)
          (notCreator_of_sameRun hs hji hi rfl hstage.address hrun) htrim hreply'
      · exact unchanged_of_sameRun hs hji hi rfl hstage.address hrun htrim hj hok hstep
    | password user => cases hstage
    | exchange row user => cases hstage

end Guarantee

/-- A registration without white space around its address. -/
def sampleRegistration : RegisterRequest := ⟨"Budi", "budi@example.com", "password1"⟩

/-- A registration with a blank after its address. -/
def blankRegistration : RegisterRequest := ⟨"Budi", "budi@example.com ", "password1"⟩

/-- A registration that is about to be answered. -/
def registering (body : RegisterRequest) : List ((authSystem sampleAuth).Action) :=
  [.arrive (.request (.register body))] ++ authCalls 0 5 samplePlain

/-- What a registration leaves, and what a login with its address gives then. -/
def loginAfter (body : RegisterRequest) (s : (authSystem sampleAuth).State) :
    Option (AuthRequest × Except AppError Response) × Option (Except AppError Response) :=
  (replyAt s 0, (runAlone sampleAuth.passwords (drawing otherPlain)
    (login sampleAuth {} ⟨body.email, body.password⟩).run s.world).1)

/-- The user of both registrations. -/
def registeredResource (email : String) : UserResource where
  id := 1
  name := "Budi"
  email
  avatarUrl := none
  role := "teacher"
  primarySubjectId := none

/-- A login after such a registration, by the theorem. -/
theorem registered_email_belongs_sample :
    ∃ (s : (authSystem sampleAuth).State) (user : UserResource) (token : String),
      replyAt s 0 = some (.register sampleRegistration, .ok
        (createdWithMessage "registered successfully" (.auth user (tokenText 1 samplePlain)))) ∧
      (runAlone sampleAuth.passwords (drawing otherPlain) (login sampleAuth {}
        ⟨sampleRegistration.email, sampleRegistration.password⟩).run s.world).1 =
          some (.ok (okWithMessage "logged in successfully" (.auth user token))) := by
  have hplay : ((Pool.play (Orderly (Text.trim sampleRegistration.email))
      ((authSystem sampleAuth).start ({} : AuthWorld)) (registering sampleRegistration)).map fun s =>
        (replyAt s 0, (AuthWorld.db s.world).insertTokenFault
          (grantedToken sampleAuth.platform 1 otherPlain))) =
      some (some (.register sampleRegistration, .ok (createdWithMessage "registered successfully"
        (.auth (registeredResource "budi@example.com") (tokenText 1 samplePlain)))), none) := by
    decide +kernel
  obtain ⟨s, hs, he⟩ := Pool.exists_of_play hplay
  obtain ⟨hreply, hnew⟩ := Prod.mk.inj he
  obtain ⟨user, token, hresponse, hlogin, _⟩ :=
    registered_email_belongs exact_clearPasswords hs (replies_of_replyAt hreply)
  obtain ⟨rfl, rfl⟩ : registeredResource "budi@example.com" = user ∧
      tokenText 1 samplePlain = token := by simpa [createdWithMessage] using hresponse
  obtain ⟨token', h⟩ := hlogin (by decide +kernel) s {} (drawing otherPlain) (.refl s) rfl hnew
  exact ⟨s, _, token', hreply, h⟩

/-- The address is stored without the blank, and the login looks for the one
with the blank. -/
theorem registered_email_rejected :
    ∃ s : (authSystem sampleAuth).State,
      Pool.Reach NoFault ((authSystem sampleAuth).start ({} : AuthWorld)) s ∧
      Replies s 0 (.register blankRegistration) (.ok (createdWithMessage "registered successfully"
        (.auth (registeredResource "budi@example.com") (tokenText 1 samplePlain)))) ∧
      (runAlone sampleAuth.passwords (drawing otherPlain) (login sampleAuth {}
        ⟨blankRegistration.email, blankRegistration.password⟩).run s.world).1 =
          some (.error (.unauthorized "invalid credentials")) := by
  have hplay : ((Pool.play NoFault ((authSystem sampleAuth).start ({} : AuthWorld))
      (registering blankRegistration)).map (loginAfter blankRegistration)) =
      some (some (.register blankRegistration, .ok (createdWithMessage "registered successfully"
        (.auth (registeredResource "budi@example.com") (tokenText 1 samplePlain)))),
        some (.error (.unauthorized "invalid credentials"))) := by
    decide +kernel
  obtain ⟨s, hs, he⟩ := Pool.exists_of_play hplay
  obtain ⟨hreply, hlogin⟩ := Prod.mk.inj he
  exact ⟨s, hs, replies_of_replyAt hreply, hlogin⟩

end KlassGateway.Auth
