import KlassGateway.AuthSystem
/-!
# Request authentication

* `authenticated_eq` evaluates the `Principal` extractor on every table state
  and every bearer token.
* `authentication_meets_iff`: it yields the user of a live token and nobody
  else, now and after a revocation, exactly where the row that it finds is of
  the user type and has not expired.  The extractor looks at neither.
* `expired_token_authenticates` is a token that it accepts too long.
-/

namespace KlassGateway.Auth

open Lib Lib.Prog Api

variable {A : AuthState}

/-! ## The extractor -/

/-- The request headers that present a token. -/
def presenting (token : String) : Headers := { authorization := some ("Bearer " ++ token) }

/-- What the extractor yields for a token when it runs alone. -/
def authenticated (A : AuthState) (w : AuthWorld) (token : String) : Option Principal :=
  match runAlone A.passwords {} (principalFromRequestParts A.platform (presenting token)).run w with
  | (some (.ok principal), _) => some principal
  | _ => none

/-- The tables after `revoke_token` has run alone. -/
def afterRevokeToken (A : AuthState) (id : Int) (w : AuthWorld) : AuthWorld :=
  (runAlone A.passwords {} (revokeToken id).run w).2

/-- The tables after `revoke_all_for_user` has run alone. -/
def afterRevokeAll (A : AuthState) (userId : Int) (w : AuthWorld) : AuthWorld :=
  (runAlone A.passwords {} (revokeAllForUser userId).run w).2

/-- The row that `verify_token` finds. -/
def tokenRow (P : Platform) (db : AuthDatabase) (token : String) : Option PersonalAccessToken :=
  (parseToken P token).bind fun (id, hash) => db.tokens.find? fun t => t.id == id && t.token == hash

theorem bearerToken_presenting (token : String) : bearerToken (presenting token) =
    if token.isEmpty then .error (.unauthorized "empty bearer token") else .ok token := by
  unfold bearerToken presenting
  rw [okOr]
  show (okOr _ (Text.stripLeading ("Bearer " ++ token) "Bearer ") >>= _) = _
  rw [Text.stripLeading_append]
  rfl

theorem parseToken_empty {P : Platform} {token : String} (h : token.isEmpty) :
    parseToken P token = none := by
  have hempty : token = "" := by simpa using h
  subst hempty
  rfl

theorem runAlone_verifyToken (w : AuthWorld) (token : String) :
    runAlone A.passwords {} (verifyToken A.platform token).run w =
      (some (.ok (tokenRow A.platform w.db token)), w) := by
  unfold verifyToken tokenRow
  cases parseToken A.platform token with
  | none => rfl
  | some idHash => rfl

theorem runAlone_findUserById (w : AuthWorld) (id : Int) :
    runAlone A.passwords {} (findUserById id).run w = (some (.ok (w.db.user id)), w) := rfl

/-- The extractor finds the row of the token and its user, and checks no more. -/
theorem authenticated_eq (w : AuthWorld) (token : String) : authenticated A w token =
    ((tokenRow A.platform w.db token).bind fun row => w.db.user row.tokenableId).map fun user =>
      ⟨user.id, user.role⟩ := by
  unfold authenticated principalFromRequestParts
  rw [bearerToken_presenting]
  by_cases hempty : token.isEmpty
  · rw [if_pos hempty, tokenRow, parseToken_empty hempty]
    rfl
  · rw [if_neg hempty]
    dsimp only
    rw [runAlone_run_bind, runAlone_run_mapErr, runAlone_verifyToken]
    cases tokenRow A.platform w.db token with
    | none => rfl
    | some row =>
      dsimp only [Option.map_some, Except.mapError]
      rw [Option.bind_some, runAlone_run_bind, runAlone_run_mapErr, runAlone_findUserById]
      cases w.db.user row.tokenableId with
      | none => rfl
      | some user => rfl

/-! ## What it should yield -/

/-- The presented token is one of `userId`: its row is there with the digest, is
of the user type and has not expired, and the user exists. -/
def Entitled (P : Platform) (db : AuthDatabase) (now : DateTime) (token : String)
    (userId : Int) : Prop :=
  ∃ idText plain id row, Text.splitOnce token '|' = some (idText, plain) ∧
    Text.parseI64 idText = some id ∧ row ∈ db.tokens ∧ row.id = id ∧
    row.token = P.sha256Hex plain ∧ row.tokenableType = TOKENABLE_TYPE ∧
    row.tokenableId = userId ∧ (∀ expiry, row.expiresAt = some expiry → now ≤ expiry) ∧
    (db.user userId).isSome

/-- Request authentication yields a user exactly for the live tokens of that
user, and never again after the token or all tokens of the user are revoked,
whatever requests and insertions follow. -/
structure MeetsContract (A : AuthState) (w : AuthWorld) (now : DateTime) (token : String) :
    Prop where
  yields : ∀ userId, (∃ principal, authenticated A w token = some principal ∧
    principal.userId = userId) ↔ Entitled A.platform w.db now token userId
  revoked : ∀ principal id hash, authenticated A w token = some principal →
    parseToken A.platform token = some (id, hash) →
    ∀ s s' : (authSystem A).State,
      s.world = afterRevokeToken A id w ∨ s.world = afterRevokeAll A principal.userId w →
      Pool.Reach (fun _ _ => True) s s' → authenticated A s'.world token = none

/-- The row that the token names, where its user exists, is of the user type
and has not expired. -/
def FindsLiveRow (P : Platform) (db : AuthDatabase) (now : DateTime) (token : String) : Prop :=
  ∀ row ∈ db.tokens, parseToken P token = some (row.id, row.token) →
    (db.user row.tokenableId).isSome →
    row.tokenableType = TOKENABLE_TYPE ∧ ∀ expiry, row.expiresAt = some expiry → now ≤ expiry

theorem parseToken_eq_some {P : Platform} {token : String} {id : Int} {hash : String} :
    parseToken P token = some (id, hash) ↔ ∃ idText plain,
      Text.splitOnce token '|' = some (idText, plain) ∧ Text.parseI64 idText = some id ∧
      P.sha256Hex plain = hash := by
  unfold parseToken
  constructor
  · intro h
    obtain ⟨⟨idText, plain⟩, hsplit, h⟩ := Option.bind_eq_some_iff.1 h
    obtain ⟨id', hid, h⟩ := Option.bind_eq_some_iff.1 h
    obtain ⟨rfl, rfl⟩ := Prod.mk.inj (Option.some.inj h)
    exact ⟨idText, plain, hsplit, hid, rfl⟩
  · rintro ⟨idText, plain, hsplit, hid, rfl⟩
    simp [hsplit, hid]

/-- With distinct ids the row of a token is the one with its id and digest. -/
theorem tokenRow_eq_some {P : Platform} {db : AuthDatabase} (hids : TokenIds db)
    {token : String} {row : PersonalAccessToken} : tokenRow P db token = some row ↔
      row ∈ db.tokens ∧ parseToken P token = some (row.id, row.token) := by
  constructor
  · intro h
    obtain ⟨⟨id, hash⟩, hparse, hfind⟩ := Option.bind_eq_some_iff.1 h
    have hkey := List.find?_some hfind
    obtain ⟨hid, hhash⟩ : row.id = id ∧ row.token = hash := by simpa using hkey
    exact ⟨List.mem_of_find?_eq_some hfind, by rw [hid, hhash]; exact hparse⟩
  · rintro ⟨hmem, hparse⟩
    rw [tokenRow, hparse, Option.bind_some]
    cases hfind : db.tokens.find? (fun t => t.id == row.id && t.token == row.token) with
    | none =>
      have hnone := List.find?_eq_none.1 hfind row hmem
      simp at hnone
    | some row' =>
      have hkey := List.find?_some hfind
      obtain ⟨hid, _⟩ : row'.id = row.id ∧ row'.token = row.token := by simpa using hkey
      have hrow := Table.find_of_mem hids.nodup hmem
      have hrow' := Table.find_of_mem hids.nodup (List.mem_of_find?_eq_some hfind)
      rw [hid, hrow] at hrow'
      exact hfind.trans hrow'.symm

/-- Who is authenticated. -/
theorem authenticated_iff {w : AuthWorld} (hids : TokenIds w.db) {token : String} {userId : Int} :
    (∃ principal, authenticated A w token = some principal ∧ principal.userId = userId) ↔
      ∃ row ∈ w.db.tokens, parseToken A.platform token = some (row.id, row.token) ∧
        row.tokenableId = userId ∧ (w.db.user userId).isSome := by
  rw [authenticated_eq]
  constructor
  · rintro ⟨principal, hauth, hid⟩
    obtain ⟨user, hbind, rfl⟩ := Option.map_eq_some_iff.1 hauth
    obtain ⟨row, hrow, huser⟩ := Option.bind_eq_some_iff.1 hbind
    obtain ⟨hmem, hparse⟩ := (tokenRow_eq_some hids).1 hrow
    have hkey : user.id = row.tokenableId := Table.find_key huser
    refine ⟨row, hmem, hparse, hkey.symm.trans hid, ?_⟩
    rw [← hid, hkey, huser]
    rfl
  · rintro ⟨row, hmem, hparse, rfl, huser⟩
    obtain ⟨user, huser⟩ := Option.isSome_iff_exists.1 huser
    have hkey : user.id = row.tokenableId := Table.find_key huser
    refine ⟨⟨user.id, user.role⟩, ?_, hkey⟩
    rw [(tokenRow_eq_some hids).2 ⟨hmem, hparse⟩, Option.bind_some, huser]
    rfl

/-! ## After a revocation -/

theorem Spent.not_authenticated {id : Int} {w : AuthWorld} (h : Spent id w.db) {token hash : String}
    (hparse : parseToken A.platform token = some (id, hash)) : authenticated A w token = none := by
  have hrow : tokenRow A.platform w.db token = none := by
    rw [tokenRow, hparse, Option.bind_some, List.find?_eq_none]
    intro t ht hkey
    obtain ⟨hid, _⟩ : t.id = id ∧ t.token = hash := by simpa using hkey
    exact h.absent t ht hid
  rw [authenticated_eq, hrow]
  rfl

/-- A revoked id is spent. -/
theorem spent_of_revokeToken {w : AuthWorld} {id : Int} (hid : id ≤ w.db.tokenSequence) :
    Spent id (afterRevokeToken A id w).db := by
  refine ⟨fun t ht => ?_, hid⟩
  have hne := (List.mem_filter.1 ht).2
  simpa using hne

/-- After `revoke_all_for_user` the ids of the tokens of the user are spent. -/
theorem spent_of_revokeAll {w : AuthWorld} (hids : TokenIds w.db) {row : PersonalAccessToken}
    (hmem : row ∈ w.db.tokens) (htype : row.tokenableType = TOKENABLE_TYPE) :
    Spent row.id (afterRevokeAll A row.tokenableId w).db := by
  refine ⟨fun t ht hid => ?_, hids.drawn row hmem⟩
  obtain ⟨htmem, hkept⟩ := List.mem_filter.1 ht
  have hrow := Table.find_of_mem hids.nodup hmem
  have htrow := Table.find_of_mem hids.nodup htmem
  rw [hid, hrow] at htrow
  cases htrow
  simp [htype] at hkept

/-! ## The guarantee -/

/-- Request authentication meets its contract exactly where the row that the
token names is of the user type and has not expired. -/
theorem authentication_meets_iff {w : AuthWorld} (hids : TokenIds w.db) (now : DateTime)
    (token : String) :
    MeetsContract A w now token ↔ FindsLiveRow A.platform w.db now token := by
  constructor
  · intro h row hmem hparse huser
    obtain ⟨idText, plain, id, row', hsplit, hid, hmem', rfl, hhash, htype, _, hexpiry, _⟩ :=
      (h.yields row.tokenableId).1 ((authenticated_iff hids).2 ⟨row, hmem, hparse, rfl, huser⟩)
    have hparse' : parseToken A.platform token = some (row'.id, row'.token) :=
      parseToken_eq_some.2 ⟨idText, plain, hsplit, hid, hhash.symm⟩
    have hrow := (tokenRow_eq_some hids).2 ⟨hmem, hparse⟩
    rw [(tokenRow_eq_some hids).2 ⟨hmem', hparse'⟩] at hrow
    cases hrow
    exact ⟨htype, hexpiry⟩
  · intro h
    refine ⟨fun userId => ?_, fun principal id hash hauth hparse s s' hworld hreach => ?_⟩
    · rw [authenticated_iff hids]
      constructor
      · rintro ⟨row, hmem, hparse, rfl, huser⟩
        obtain ⟨htype, hexpiry⟩ := h row hmem hparse huser
        obtain ⟨idText, plain, hsplit, hid, hhash⟩ := parseToken_eq_some.1 hparse
        exact ⟨idText, plain, _, row, hsplit, hid, hmem, rfl, hhash.symm, htype, rfl, hexpiry, huser⟩
      · rintro ⟨idText, plain, id, row, hsplit, hid, hmem, rfl, hhash, _, rfl, _, huser⟩
        exact ⟨row, hmem, parseToken_eq_some.2 ⟨idText, plain, hsplit, hid, hhash.symm⟩, rfl, huser⟩
    · obtain ⟨row, hmem, hrow, htokenable, huser⟩ :=
        (authenticated_iff hids).1 ⟨principal, hauth, rfl⟩
      rw [hparse] at hrow
      obtain ⟨rfl, rfl⟩ := Prod.mk.inj (Option.some.inj hrow)
      have hspent : Spent row.id s.world.db := by
        obtain hworld | hworld := hworld
        · rw [hworld]
          exact spent_of_revokeToken (hids.drawn row hmem)
        · rw [hworld, ← htokenable]
          exact spent_of_revokeAll hids hmem (h row hmem hparse (htokenable ▸ huser)).1
      exact (hspent.of_reach hreach).not_authenticated hparse

/-- A token that has not expired. -/
theorem authentication_meets_iff_live :
    MeetsContract sampleAuth (sampleAuthWorld (some 5)) 3 (tokenText 1 samplePlain) := by
  refine (authentication_meets_iff (tokenIds_sampleAuthWorld _) 3 _).2 fun row hmem _ _ => ?_
  obtain rfl := List.mem_singleton.1 hmem
  refine ⟨rfl, fun expiry h => ?_⟩
  cases h
  decide

/-- The same token after it has expired still authenticates its user. -/
theorem expired_token_authenticates :
    TokenIds (sampleAuthWorld (some 5)).db ∧
      ¬ MeetsContract sampleAuth (sampleAuthWorld (some 5)) 10 (tokenText 1 samplePlain) := by
  refine ⟨tokenIds_sampleAuthWorld _, fun h => ?_⟩
  have hauth : authenticated sampleAuth (sampleAuthWorld (some 5)) (tokenText 1 samplePlain) =
      some ⟨7, "teacher"⟩ := by
    have hrow : tokenRow sampleAuth.platform (sampleAuthWorld (some 5)).db
        (tokenText 1 samplePlain) = some (sampleToken (some 5)) := by
      decide +kernel
    rw [authenticated_eq, hrow]
    rfl
  obtain ⟨_, _, _, row, _, _, hmem, _, _, _, _, hexpiry, _⟩ := (h.yields 7).1 ⟨_, hauth, rfl⟩
  obtain rfl := List.mem_singleton.1 hmem
  exact absurd (hexpiry 5 rfl) (by decide)

end KlassGateway.Auth
