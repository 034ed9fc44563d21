import KlassGateway.Guarantees.Submission
import KlassGateway.Lib.Upsert
/-!
# The rows of a teacher

A request of a teacher reads a row before it changes it, and it keeps only what belongs to the
teacher.  Between its calls the row may change, but never its teacher.

* `ownSpec` is the discipline of a request: it changes, queues or submits only generations that it
  has read as its own or has inserted.
* `Arrival.follows_own`: every request follows it.
* `own_rows_only`: what a request does in any run.
-/

namespace KlassGateway

open Lib Lib.Prog Db Orchestrator Queue MediaGen Api

variable {A : AppState} {p : Principal}

/-! ## The discipline -/

/-- The generation that a call changes, queues or submits. -/
def Operation.target : Operation → Option Uuid
  | .query (.onRow id _) => some id
  | .command (.xadd message) => some message.generationId
  | .postJob request => some request.job.generationId
  | _ => none

/-- A call that changes no row, and neither queues nor submits a job. -/
def LookCall : Operation → Prop
  | .query (.insertSubmission _) => False
  | .query (.insertRegeneration _ _) => False
  | .query (.onRow _ _) => False
  | .query _ => True
  | .command .connect => True
  | .command _ => False
  | .now => True
  | .newUuid => True
  | .checkUserRateLimit _ _ => True
  | _ => False

theorem target_of_look {o : Operation} (h : LookCall o) : o.target = none := by
  cases o with
  | query q =>
    cases q with
    | onRow id st => cases h
    | _ => rfl
  | command command =>
    cases command with
    | xadd message => cases h
    | _ => rfl
  | postJob request => cases h
  | _ => rfl

/-- The generations that a request knows to be its own from the answer of a call. -/
def ownIds (p : Principal) : (o : Operation) → o.Resp → List Uuid
  | .query (.findById id), .ok (some (g : MediaGeneration)) =>
    if g.teacherId = p.userId then [id, g.id] else []
  | .query (.findActiveDuplicate teacherId _), .ok (some (id : Uuid)) =>
    if teacherId = p.userId then [id] else []
  | .query (.insertSubmission row), .ok _ => [row.id]
  | .query (.insertRegeneration _ row), .ok _ => [row.id]
  | _, _ => []

/-- What a request of `p` may call, with the generations that it knows to be its own. -/
def ownSpec (p : Principal) : OpSpec effects (List Uuid) where
  pre ids o := LookCall o ∨ p.role = "teacher" ∧ match o with
    | .query (.insertSubmission row) => row.teacherId = p.userId
    | .query (.insertRegeneration parentId _) => parentId ∈ ids
    | o => ∃ id ∈ ids, o.target = some id
  step ids o r ids' := ids' = ownIds p o r ++ ids

theorem subset_of_step {ids ids' : List Uuid} {o : Operation} {r : o.Resp}
    (h : (ownSpec p).step ids o r ids') : ids ⊆ ids' := by
  subst h
  exact List.subset_append_right _ _

theorem persists_known (id : Uuid) : Persists (ownSpec p) (id ∈ ·) := fun _ _ _ _ hstep hid =>
  subset_of_step hstep hid

/-- The program follows the discipline once it knows `id`. -/
abbrev Knows (p : Principal) (id : Uuid) {α : Type} (q : Gateway α) : Prop :=
  SafeFrom (ownSpec p) (id ∈ ·) q

section Rules

variable {α β ε : Type} {id : Uuid}

theorem knows_bind {q : Gateway α} {f : α → Gateway β} (hq : Knows p id q)
    (hf : ∀ a, Knows p id (f a)) : Knows p id (q.bind f) := (persists_known id).bind hq hf

theorem knows_run_bind {q : GatewayResult ε α} {f : α → GatewayResult ε β} (hq : Knows p id q.run)
    (hf : ∀ a, Knows p id (f a).run) : Knows p id (q >>= f).run :=
  (persists_known id).run_bind hq hf

/-- Calls that look follow the discipline. -/
theorem safe_of_look {q : Gateway α} (hq : OnlyCalls LookCall q) : Safe (ownSpec p) q :=
  hq.safe fun _ ho _ => Or.inl ho

theorem knows_of_look {q : Gateway α} (hq : OnlyCalls LookCall q) : Knows p id q :=
  (safe_of_look hq).safeFrom

/-- A call on a known generation. -/
theorem knows_query (hrole : p.role = "teacher") (st : RowStatement) :
    Knows p id (query (.onRow id st)).run := fun _ hid =>
  (wp_query _ _).2 ⟨Or.inr ⟨hrole, id, hid, rfl⟩, fun _ _ _ => trivial⟩

end Rules

/-! ## The steps of a request -/

section Steps

variable {id : Uuid} {α : Type}

/-- A request of somebody else than a teacher ends at once. -/
theorem own_requireTeacher {f : Unit → GatewayResult AppError α} {ids : List Uuid}
    (hf : p.role = "teacher" → (f ()).run.wp (ownSpec p) (fun _ _ => True) ids) :
    (requireTeacher p >>= f).run.wp (ownSpec p) (fun _ _ => True) ids := by
  unfold requireTeacher
  by_cases hrole : p.role = "teacher"
  · rw [if_neg (not_not_intro hrole)]
    exact hf hrole
  · rw [if_pos hrole]
    trivial

theorem look_checkRateLimit (endpoint : String) :
    OnlyCalls LookCall (checkRateLimit A p endpoint).run := by
  unfold checkRateLimit
  split
  · refine safe_run_bind (safe_run_liftM (only_perform (I := effects) trivial)) fun b => ?_
    split
    · exact safe_run_throw _
    · exact safe_run_pure _
  · exact safe_run_pure _

theorem look_findByIdForTeacher (teacherId : Int) :
    OnlyCalls LookCall (findByIdForTeacher id teacherId).run :=
  safe_run_bind (safe_run_mapErr (only_query trivial)) fun _ => safe_run_pure _

theorem look_jobIdOr (row : MediaGeneration) : OnlyCalls LookCall (jobIdOr row) := by
  unfold jobIdOr
  split
  · exact safe_ret _
  · exact only_newV4 trivial

/-- A generation that `find_by_id_for_teacher` answers with is known to be the sender's. -/
theorem own_findByIdForTeacher (ids : List Uuid) :
    (findByIdForTeacher id p.userId).run.wp (ownSpec p)
      (OnValue fun row ids => ∀ g : MediaGeneration, row = some g → id ∈ ids ∧ g.id ∈ ids) ids := by
  refine (wp_run_bind _ _ _ _).2 ((wp_run_mapErr _ _ _ _).2 ((wp_query _ _).2
    ⟨Or.inl trivial, fun r ids' hids => ?_⟩))
  cases r with
  | error e => exact onValue_error _ _
  | ok row =>
    refine onValue_ok fun g hg => ?_
    obtain ⟨hrow, hteacher⟩ := Option.filter_eq_some_iff.1 hg
    subst hrow
    have hown : ownIds p (.query (.findById id)) (.ok (some g)) = [id, g.id] :=
      if_pos (eq_of_beq hteacher)
    change ids' = ownIds p (.query (.findById id)) (.ok (some g)) ++ ids at hids
    rw [hids, hown]
    exact ⟨List.mem_cons_self, List.mem_cons_of_mem _ List.mem_cons_self⟩

/-- A duplicate that is found for a submission is known to be the sender's. -/
theorem own_lookupDuplicate {P : Platform} {input : CreateInput}
    (hinput : input.teacherId = p.userId) (ids : List Uuid) :
    (lookupDuplicate P input).run.wp (ownSpec p)
      (OnValue fun found ids => ∀ id : Uuid, found = some id → id ∈ ids) ids := by
  refine (wp_run_mapErr _ _ _ _).2 ((wp_query _ _).2 ⟨Or.inl trivial, fun r ids' hids => ?_⟩)
  cases r with
  | error e => exact onValue_error _ _
  | ok found =>
    refine onValue_ok fun id hfound => ?_
    subst hfound
    have hown : ownIds p (.query (.findActiveDuplicate input.teacherId (input.fingerprint P)))
        (.ok (some id)) = [id] := if_pos hinput
    change ids' = ownIds p (.query (.findActiveDuplicate input.teacherId (input.fingerprint P)))
      (.ok (some id)) ++ ids at hids
    rw [hids, hown]
    exact List.mem_cons_self

/-- The generation that is inserted or reused for a submission is known to be the sender's. -/
theorem own_createOrReuse {P : Platform} {input : CreateInput} (hrole : p.role = "teacher")
    (hinput : input.teacherId = p.userId) (ids : List Uuid) :
    (createOrReuse P input).run.wp (ownSpec p) (OnValue fun result ids => result.id ∈ ids) ids := by
  refine wp_onValue_bind (own_lookupDuplicate hinput ids) fun found ids hfound => ?_
  cases found with
  | some id => exact onValue_ok (hfound id rfl)
  | none =>
    refine (wp_run_draw _ _).2 ⟨Or.inl trivial, fun id ids _ => ?_⟩
    rw [wp_run_bind, wp_run_resultOf, wp_query]
    refine ⟨Or.inr ⟨hrole, hinput⟩, fun r ids' hids => ?_⟩
    cases r with
    | ok _ =>
      change ids' = [id] ++ ids at hids
      subst hids
      exact onValue_ok List.mem_cons_self
    | error e =>
      dsimp only
      unfold recoverInsert
      split
      · refine wp_onValue_bind (own_lookupDuplicate hinput ids') fun found ids hfound => ?_
        cases found with
        | some id => exact onValue_ok (hfound id rfl)
        | none => exact onValue_error _ _
      · exact onValue_error _ _

/-- The generation that a regeneration inserts is known to be the sender's. -/
theorem own_createRegeneration {P : Platform} {prompt : String} (hrole : p.role = "teacher")
    {ids : List Uuid} (hid : id ∈ ids) :
    (createRegeneration P id prompt).run.wp (ownSpec p) (OnValue fun newId ids => newId ∈ ids)
      ids := by
  refine (wp_run_bind _ _ _ _).2 ((wp_run_mapErr _ _ _ _).2 ((wp_query _ _).2
    ⟨Or.inl trivial, fun r ids₁ hids₁ => ?_⟩))
  match r with
  | .error e => exact onValue_error _ _
  | .ok none => exact onValue_error _ _
  | .ok (some parent) =>
    refine (wp_run_draw _ _).2 ⟨Or.inl trivial, fun newId ids₂ hids₂ => ?_⟩
    refine (wp_run_bind _ _ _ _).2 ((wp_run_mapErr _ _ _ _).2 ((wp_query _ _).2
      ⟨Or.inr ⟨hrole, subset_of_step hids₂ (subset_of_step hids₁ hid)⟩, fun r ids₃ hids₃ => ?_⟩))
    cases r with
    | ok _ =>
      change ids₃ = [newId] ++ ids₂ at hids₃
      subst hids₃
      exact onValue_ok List.mem_cons_self
    | error e => exact onValue_error _ _

variable (hrole : p.role = "teacher")
include hrole

theorem knows_updateRow (u : RowUpdate) (failure absent : String) :
    Knows p id (updateRow id u failure absent).run := by
  refine knows_run_bind (safeFrom_run_mapErr (knows_query hrole (.update u))) fun r =>
    Safe.safeFrom ?_
  cases r with
  | some _ => exact safe_run_pure _
  | none => exact safe_run_throw _

theorem knows_handOver (jobId : Uuid) : Knows p id (handOver A id jobId) := by
  unfold handOver
  split
  · refine knows_bind ?_ fun _ => (safe_ret _).safeFrom
    refine knows_run_bind (knows_of_look (only_command (c := .connect) trivial)) fun _ =>
      knows_run_bind (safeFrom_run_liftM (knows_of_look (only_utcNow trivial))) fun now => ?_
    exact fun _ hid => (wp_command _ _).2 ⟨Or.inr ⟨hrole, id, hid, rfl⟩, fun _ _ _ => trivial⟩
  · exact (safe_ret _).safeFrom

theorem knows_startJob : Knows p id (startJob A id).run :=
  knows_run_bind (safeFrom_run_liftM (knows_of_look (only_newV4 trivial))) fun jobId =>
    knows_run_bind (safeFrom_run_mapErr (knows_updateRow hrole _ _ _)) fun _ =>
      knows_run_bind (safeFrom_run_liftM (knows_handOver hrole jobId)) fun _ =>
        (safe_run_pure _).safeFrom

theorem knows_reprocess (prompt : String) (state : Json) (skipped : Bool) (message : String) :
    Knows p id (reprocess A id prompt state skipped message).run :=
  knows_run_bind (safeFrom_run_mapErr (knows_updateRow hrole _ _ _)) fun _ =>
    knows_run_bind (safeFrom_run_liftM (knows_of_look (only_utcNow trivial))) fun _ =>
      knows_run_bind (safeFrom_run_mapErr (knows_updateRow hrole _ _ _)) fun _ =>
        knows_run_bind (knows_startJob hrole) fun _ => (safe_run_pure _).safeFrom

theorem knows_submitJob (url : String) (jobId : Uuid) :
    Knows p id (submitJob url id jobId).run := by
  have hspec : OnlyCalls LookCall (loadSpec id).run := by
    refine safe_run_bind (safe_run_mapErr (only_query trivial)) fun r => ?_
    cases r with
    | none => exact safe_run_throw _
    | some row =>
      dsimp only
      split
      · exact safe_run_throw _
      · exact safe_run_pure _
  refine knows_run_bind (knows_of_look hspec) fun spec => knows_run_bind ?_ fun reply => ?_
  · exact safeFrom_run_liftM fun _ hid =>
      (wp_postJob _ _).2 ⟨Or.inr ⟨hrole, id, hid, rfl⟩, fun _ _ _ => trivial⟩
  · split
    · exact (safe_run_pure _).safeFrom
    · exact (safe_run_throw _).safeFrom

theorem knows_startRegeneration : Knows p id (startRegeneration A id) :=
  knows_bind (knows_of_look (only_newV4 trivial)) fun jobId =>
    knows_bind (knows_updateRow hrole _ _ _) fun _ =>
      knows_bind (knows_submitJob hrole _ jobId) fun _ => (safe_ret _).safeFrom

end Steps

/-! ## The requests -/

theorem own_create (payload : CreateRequest) (ids : List Uuid) :
    (create A p payload).run.wp (ownSpec p) (fun _ _ => True) ids := by
  refine own_requireTeacher fun hrole => ?_
  refine (wp_run_seq (R := fun _ _ => True) (safe_of_look (look_checkRateLimit _) ids)
    (fun _ ids _ => ?_) fun _ _ _ => trivial)
  refine wp_run_seq (wp_onValue_mapErr (own_createOrReuse hrole rfl ids))
    (fun result ids hresult => ?_) fun _ _ _ => trivial
  have hid : result.id ∈ ids := hresult result rfl
  split
  · exact knows_run_bind (knows_startJob hrole) (fun _ => (safe_run_pure _).safeFrom) ids hid
  · refine safe_of_look ?_ ids
    refine safe_run_bind (safe_run_mapErr (look_findByIdForTeacher _)) fun r => ?_
    cases r with
    | none => exact safe_run_throw _
    | some row => exact safe_run_bind (safe_run_liftM (look_jobIdOr row)) fun _ => safe_run_pure _

theorem own_regenerate (id : Uuid) (prompt : String) (ids : List Uuid) :
    (regenerate A p id prompt).run.wp (ownSpec p) (fun _ _ => True) ids := by
  refine own_requireTeacher fun hrole => ?_
  refine (wp_run_seq (R := fun _ _ => True) (safe_of_look (look_checkRateLimit _) ids)
    (fun _ ids _ => ?_) fun _ _ _ => trivial)
  refine wp_run_seq (wp_onValue_mapErr (own_findByIdForTeacher ids)) (fun row ids hrow => ?_)
    fun _ _ _ => trivial
  cases row with
  | none => trivial
  | some parent =>
    have hid := (hrow _ rfl parent rfl).1
    dsimp only
    split
    · trivial
    · refine wp_run_seq (wp_onValue_mapErr (own_createRegeneration hrole hid))
        (fun newId ids hnew => ?_) fun _ _ _ => trivial
      refine knows_run_bind (safeFrom_run_liftM (knows_startRegeneration hrole))
        (fun _ => knows_of_look ?_) ids (hnew newId rfl)
      refine safe_run_bind (safe_run_mapErr (look_findByIdForTeacher _)) fun r => ?_
      cases r with
      | none => exact safe_run_throw _
      | some _ => exact safe_run_pure _

/-- The answer about a row that is terminal. -/
theorem look_answerTerminal (row : MediaGeneration) : OnlyCalls LookCall (answerTerminal row).run :=
  safe_run_bind (safe_run_liftM (look_jobIdOr row)) fun _ => safe_run_pure _

theorem own_confirm (payload : ConfirmRequest) (ids : List Uuid) :
    (confirm A p payload).run.wp (ownSpec p) (fun _ _ => True) ids := by
  refine own_requireTeacher fun hrole => ?_
  split
  · trivial
  · refine wp_run_seq (wp_onValue_mapErr (own_findByIdForTeacher ids)) (fun row ids hrow => ?_)
      fun _ _ _ => trivial
    cases row with
    | some g =>
      dsimp only
      split
      · exact safe_of_look (look_answerTerminal g) ids
      · exact knows_reprocess hrole _ _ _ _ ids (hrow _ rfl g rfl).2
    | none =>
      refine wp_run_seq (wp_onValue_mapErr (own_createOrReuse hrole rfl ids))
        (fun result ids hresult => ?_) fun _ _ _ => trivial
      exact knows_reprocess hrole _ _ _ _ ids (hresult result rfl)

theorem own_skipClarification (id : Uuid) (ids : List Uuid) :
    (skipClarification A p id).run.wp (ownSpec p) (fun _ _ => True) ids := by
  refine own_requireTeacher fun hrole => ?_
  refine wp_run_seq (wp_onValue_mapErr (own_findByIdForTeacher ids)) (fun row ids hrow => ?_)
    fun _ _ _ => trivial
  cases row with
  | none => trivial
  | some g =>
    dsimp only
    split
    · exact safe_of_look (look_answerTerminal g) ids
    · exact knows_reprocess hrole _ _ _ _ ids (hrow _ rfl g rfl).1

/-- The response adds no call. -/
theorem own_respondWith {α : Type} {q : GatewayResult AppError α} {ids : List Uuid}
    (hq : q.run.wp (ownSpec p) (fun _ _ => True) ids) :
    (respondWith q).wp (ownSpec p) (fun _ _ => True) ids :=
  (wp_bind _ _ _ _).2 (wp_mono (fun _ _ _ => trivial) hq)

namespace Arrival

/-- Who sends a request. -/
def principal : Arrival → Option Principal
  | create p _ => some p
  | regenerate p _ _ => some p
  | confirm p _ => some p
  | skipClarification p _ => some p
  | _ => none

/-- A request is one task, which follows the discipline of its sender. -/
theorem follows_own {arr : Arrival} (h : arr.principal = some p) (w : World) :
    ∃ l q, arrive A w arr = some (w, [(l, q)]) ∧ q.wp (ownSpec p) (fun _ _ => True) [] := by
  cases arr with
  | create p' payload =>
    obtain rfl := Option.some.inj h
    exact ⟨_, _, rfl, own_respondWith (own_create payload [])⟩
  | regenerate p' id prompt =>
    obtain rfl := Option.some.inj h
    exact ⟨_, _, rfl, own_respondWith (own_regenerate id prompt [])⟩
  | confirm p' payload =>
    obtain rfl := Option.some.inj h
    exact ⟨_, _, rfl, own_respondWith (own_confirm payload [])⟩
  | skipClarification p' id =>
    obtain rfl := Option.some.inj h
    exact ⟨_, _, rfl, own_respondWith (own_skipClarification id [])⟩
  | _ => cases h

end Arrival

/-! ## The rows -/

/-- The generation is one of the teacher's. -/
def Owns (p : Principal) (db : Database) (id : Uuid) : Prop :=
  ∃ g, db.row id = some g ∧ g.teacherId = p.userId

/-- A generation stays its teacher's, whatever is called. -/
theorem Owns.exec {w : World} {id : Uuid} (h : Owns p w.db id) (o : Operation) (c : Choice) :
    Owns p (o.exec w c).2.db id := by
  obtain ⟨g, hg, hteacher⟩ := h
  obtain hsame | ⟨st, -, hrow⟩ := o.exec_row c hg
  · exact ⟨g, hsame, hteacher⟩
  · exact ⟨_, hrow, (row_identity _ _ _ g st).2.1.trans hteacher⟩

section Query

variable {db : Database} {now : DateTime} {id : Uuid}

/-- An insertion that succeeds has inserted its row. -/
theorem owns_of_insert {row : MediaGeneration} {r : Except SqlxError Unit} {db' : Database}
    (h : db.insert now row = (r, db')) (hr : r = .ok ()) (hteacher : row.teacherId = p.userId) :
    Owns p db' row.id := by
  cases hfault : db.insertFault row with
  | some e =>
    rw [Database.insert_of_some hfault] at h
    obtain rfl := (Prod.mk.inj h).1
    cases hr
  | none =>
    rw [Database.insert_of_none hfault] at h
    obtain rfl := (Prod.mk.inj h).2
    have hfree : Table.find MediaGeneration.id row.id db.rows = none :=
      Table.find_eq_none_iff.2 fun hmem => by
        obtain ⟨g, hg, hid⟩ := List.mem_map.1 hmem
        exact (Query.keys_free hfault g hg).1 hid
    refine ⟨Database.stamp now row, ?_, hteacher⟩
    unfold Database.row
    rw [Table.find_append, hfree]
    exact if_pos rfl

/-- What a request takes for its own is its own. -/
theorem owns_of_query (hdistinct : (db.rows.map MediaGeneration.id).Nodup) {ids : List Uuid}
    (hids : ∀ id ∈ ids, Owns p db id) {q : Query} (hpre : (ownSpec p).pre ids (.query q))
    (replies : PublicationReplies) (hid : id ∈ ownIds p (.query q) (q.exec now replies db).1) :
    Owns p (q.exec now replies db).2 id := by
  cases q with
  | findById id' =>
    cases hrow : db.row id' with
    | none =>
      simp only [Query.exec, hrow] at hid
      cases hid
    | some g =>
      simp only [Query.exec, hrow] at hid ⊢
      change id ∈ (if g.teacherId = p.userId then [id', g.id] else []) at hid
      split at hid
      · next hteacher =>
        have hkey : g.id = id' := Table.find_key hrow
        rw [hkey, List.mem_cons, List.mem_singleton, or_self] at hid
        subst hid
        exact ⟨g, hrow, hteacher⟩
      · cases hid
  | findActiveDuplicate teacherId fingerprint =>
    simp only [Query.exec] at hid ⊢
    cases hnewest : Database.newest
        (db.rows.filter (Database.isActiveDuplicate teacherId fingerprint)) with
    | none =>
      rw [hnewest] at hid
      cases hid
    | some g =>
      rw [hnewest] at hid
      change id ∈ (if teacherId = p.userId then [g.id] else []) at hid
      split at hid
      · next hteacher =>
        obtain rfl := List.mem_singleton.1 hid
        obtain ⟨hmem, hactive⟩ := List.mem_filter.1 (newest_mem hnewest)
        refine ⟨g, Table.find_of_mem hdistinct hmem, ?_⟩
        unfold Database.isActiveDuplicate at hactive
        rw [Bool.and_eq_true, Bool.and_eq_true] at hactive
        exact (eq_of_beq hactive.1.1).trans hteacher
      · cases hid
  | insertSubmission row =>
    cases hexec : db.insert now row with
    | mk r db' =>
      simp only [Query.exec, hexec] at hid ⊢
      cases r with
      | error e => cases hid
      | ok _ =>
        obtain rfl := List.mem_singleton.1 hid
        obtain hlook | ⟨-, hteacher⟩ := hpre
        · cases hlook
        · exact owns_of_insert hexec rfl hteacher
  | insertRegeneration parentId row =>
    obtain hlook | ⟨-, hparent⟩ := hpre
    · cases hlook
    · obtain ⟨parent, hrow, hteacher⟩ := hids parentId hparent
      cases hexec : db.insert now { row with teacherId := parent.teacherId } with
      | mk r db' =>
        simp only [Query.exec, hrow, hexec] at hid ⊢
        cases r with
        | error e => cases hid
        | ok _ =>
          obtain rfl := List.mem_singleton.1 hid
          have howned := owns_of_insert hexec rfl hteacher
          exact howned
  | _ => cases hid

end Query

/-- The rows have distinct ids, and those that a request knows to be its own are. -/
structure OwnRows (p : Principal) (w : World) (ids : List Uuid) : Prop where
  distinct : (w.db.rows.map MediaGeneration.id).Nodup
  own : ∀ id ∈ ids, Owns p w.db id

/-- Whatever is called, the rows keep distinct ids, and the sender its generations. -/
theorem OwnRows.exec {w : World} {ids : List Uuid} (h : OwnRows p w ids) (o : Operation)
    (c : Choice) : OwnRows p (o.exec w c).2 ids := by
  refine ⟨?_, fun id hid => (h.own id hid).exec o c⟩
  obtain hdb | ⟨q, rfl, hdb⟩ := o.exec_db w c
  · rw [hdb]
    exact h.distinct
  · rw [hdb]
    exact q.nodup_exec _ _ _ h.distinct (fun row _ hf g hg => (Query.keys_free hf g hg).1)
      fun st g => (row_identity _ _ _ g st).1

/-- The generations that a request learns of from its own call are the sender's. -/
theorem OwnRows.exec_own {w : World} {ids : List Uuid} (h : OwnRows p w ids) {o : Operation}
    (hpre : (ownSpec p).pre ids o) (c : Choice) :
    OwnRows p (o.exec w c).2 (ownIds p o (o.exec w c).1 ++ ids) := by
  refine ⟨(h.exec o c).distinct, fun id hid => ?_⟩
  rcases List.mem_append.1 hid with hnew | hold
  · cases o with
    | query q =>
      simp only [Operation.exec] at hnew ⊢
      cases hfault : c.fault with
      | none =>
        simp only [hfault, withFault] at hnew ⊢
        exact owns_of_query h.distinct h.own hpre c.publication hnew
      | failed m =>
        simp only [hfault, withFault] at hnew
        cases q <;> cases hnew
      | lost m =>
        simp only [hfault, withFault] at hnew
        cases q <;> cases hnew
    | _ => cases hnew
  · exact (h.own id hold).exec o c

/-- A row that the request inserts is its own. -/
theorem teacher_of_inserted {w : World} {ids : List Uuid} (h : OwnRows p w ids) {q : Query}
    (hpre : (ownSpec p).pre ids (.query q)) {row : MediaGeneration}
    (hrow : q.inserted w.db = some row) : p.role = "teacher" ∧ row.teacherId = p.userId := by
  cases q with
  | insertSubmission row' =>
    obtain rfl := Option.some.inj hrow
    obtain hlook | hown := hpre
    · cases hlook
    · exact hown
  | insertRegeneration parentId row' =>
    obtain ⟨parent, hparent, rfl⟩ := Option.map_eq_some_iff.1 hrow
    obtain hlook | ⟨hrole, hin⟩ := hpre
    · cases hlook
    · obtain ⟨g, hg, hteacher⟩ := h.own parentId hin
      rw [hparent] at hg
      obtain rfl := Option.some.inj hg
      exact ⟨hrole, hteacher⟩
  | _ => cases hrow

/-- A generation that the request changes, queues or submits is its own. -/
theorem owns_of_target {w : World} {ids : List Uuid} (h : OwnRows p w ids) {o : Operation}
    (hpre : (ownSpec p).pre ids o) {id : Uuid} (hid : o.target = some id) :
    p.role = "teacher" ∧ Owns p w.db id := by
  obtain hlook | ⟨hrole, hin⟩ := hpre
  · rw [target_of_look hlook] at hid
    cases hid
  · refine ⟨hrole, h.own id ?_⟩
    have hknown : ∃ id' ∈ ids, o.target = some id' := by
      cases o with
      | query q =>
        cases q with
        | insertSubmission row => cases hid
        | insertRegeneration parentId row => cases hid
        | _ => exact hin
      | _ => exact hin
    obtain ⟨id', hin', htarget⟩ := hknown
    rw [hid] at htarget
    rw [Option.some.inj htarget]
    exact hin'

/-- Every row that a call of the request changes or inserts is the sender's. -/
theorem owns_of_changed {w : World} {ids : List Uuid} (h : OwnRows p w ids) {o : Operation}
    (hpre : (ownSpec p).pre ids o) (c : Choice) {id : Uuid}
    (hne : (o.exec w c).2.db.row id ≠ w.db.row id) :
    p.role = "teacher" ∧ Owns p (o.exec w c).2.db id ∧
      (w.db.row id = none ∨ Owns p w.db id) := by
  cases hold : w.db.row id with
  | some g =>
    obtain hsame | ⟨st, rfl, -⟩ := o.exec_row c hold
    · exact absurd (hsame.trans hold.symm) hne
    · obtain ⟨hrole, howned⟩ : p.role = "teacher" ∧ Owns p w.db id := owns_of_target h hpre rfl
      exact ⟨hrole, howned.exec _ c, Or.inr howned⟩
  | none =>
    rw [hold] at hne
    obtain hdb | ⟨q, rfl, hdb⟩ := o.exec_db w c
    · exact absurd (hdb ▸ hold) hne
    · rw [hdb] at hne ⊢
      unfold Database.row at hne hold
      obtain hrows | ⟨row, hrow, -, hrows⟩ | ⟨id', st, g, rfl, hg, hrows⟩ :=
        q.exec_rows c.clock c.publication w.db
      · rw [hrows] at hne
        exact absurd hold hne
      · obtain ⟨hrole, hteacher⟩ := teacher_of_inserted h hpre hrow
        rw [hrows, Table.find_append, hold] at hne
        have hkey : row.id = id := by_contra fun hkey => hne (if_neg hkey)
        refine ⟨hrole, ⟨Database.stamp c.clock row, ?_, hteacher⟩, Or.inl rfl⟩
        unfold Database.row
        rw [hrows, Table.find_append, hold]
        exact if_pos hkey
      · have hids : id ≠ id' := fun heq => by
          subst heq
          unfold Database.row at hg
          rw [hold] at hg
          cases hg
        rw [hrows,
          Table.find_modify_of_ne (fun r hr => by rw [RowStatement.row_id, hr]) hids] at hne
        exact absurd hold hne

/-! ## Any run -/

/-- Whatever runs beside it, a request changes and inserts rows of its sender only, it queues and
submits only their jobs, and it does neither for somebody else than a teacher. -/
theorem own_rows_only {ok : (system A).State → (system A).Action → Prop}
    {s s₁ s₂ s₃ : (system A).State} (hs : Reachable A ok s) {request : Arrival}
    (hp : request.principal = some p) (harr : Pool.step s (.arrive request) = some s₁)
    (hrun : Pool.Reach ok s₁ s₂) {c : Choice} (hact : Pool.step s₂ (.act s.next c) = some s₃) :
    (∀ id, s₃.world.db.row id ≠ s₂.world.db.row id → p.role = "teacher" ∧
      Owns p s₃.world.db id ∧ (s₂.world.db.row id = none ∨ Owns p s₂.world.db id)) ∧
    ∀ l o id, Pool.called s₂ (.act s.next c) = some (l, o) → o.target = some id →
      p.role = "teacher" ∧ Owns p s₂.world.db id := by
  obtain ⟨l₀, q₀, harrive, hfollows⟩ := Arrival.follows_own (A := A) hp s.world
  obtain ⟨arr, w, spawned, he, harr', rfl⟩ | ⟨i, c', l, o, k, he, -, -⟩ | ⟨i, t, he, -, -⟩ :=
    Pool.step_cases harr
  rotate_left
  · cases he
  · cases he
  cases he
  obtain ⟨rfl, rfl⟩ := Prod.mk.inj (Option.some.inj (harr'.symm.trans harrive))
  have hown : ∀ t, s₂.tasks s.next = some t →
      ∃ ids, OwnRows p s₂.world ids ∧ t.prog.wp (ownSpec p) (fun _ _ => True) ids :=
    hrun.follows_task
    (fun w o c ids h => h.exec o c)
    (fun w arr w' spawned ids harr h => by
      obtain ⟨jobs, renderer, rfl⟩ := arrive_world harr
      exact ⟨h.distinct, h.own⟩)
    (fun w o c ids h hpre => ⟨_, rfl, h.exec_own hpre c⟩)
    (Nat.lt_add_one s.next)
    (fun t ht => ?_)
  · obtain ⟨arr, w, spawned, he, -, -⟩ | ⟨i, c', l, o, k, he, hti, rfl⟩ | ⟨i, t, he, -, -⟩ :=
      Pool.step_cases hact
    · cases he
    · cases he
      obtain ⟨ids, hrows, hpre, -⟩ := hown _ hti
      refine ⟨fun id hne => owns_of_changed hrows hpre c hne, fun l' o' id hcalled htarget => ?_⟩
      obtain ⟨rfl, rfl⟩ := Prod.mk.inj (Option.some.inj ((Pool.called_act hti).symm.trans hcalled))
      exact owns_of_target hrows hpre htarget
    · cases he
  · simp only [if_neg (Nat.lt_irrefl _), Nat.sub_self] at ht
    rw [Pool.keep_eq_some ht]
    exact ⟨[], ⟨(rowsOk_of_reachable hs).ids, fun id hid => absurd hid List.not_mem_nil⟩, hfollows⟩

/-- A request of a teacher inserts a row with its fourth call, and the row is the teacher's. -/
theorem own_rows_only_sample : ∃ s₁ s₂ s₃ : (system sampleGateway).State,
    Pool.step ((system sampleGateway).start sampleWorld)
      (.arrive (.create sampleTeacher { rawPrompt := "fotosintesis" })) = some s₁ ∧
    Pool.Reach (fun _ _ => True) s₁ s₂ ∧ Pool.step s₂ (.act 0 fine) = some s₃ ∧
    s₂.world.db.row ⟨0⟩ = none ∧ Owns sampleTeacher s₃.world.db ⟨0⟩ := by
  have hplay : (((Pool.step ((system sampleGateway).start sampleWorld)
      (.arrive (.create sampleTeacher { rawPrompt := "fotosintesis" }))).bind fun s₁ =>
        (Pool.play (fun _ _ => True) s₁ (calls 0 3)).bind fun s₂ =>
          (Pool.step s₂ (.act 0 fine)).map fun s₃ =>
            ((s₂.world.db.row ⟨0⟩).isSome, (s₃.world.db.row ⟨0⟩).isSome))) =
      some (false, true) := by rfl
  obtain ⟨s₁, harr, h₁⟩ := Option.bind_eq_some_iff.1 hplay
  obtain ⟨s₂, hcalls, h₂⟩ := Option.bind_eq_some_iff.1 h₁
  obtain ⟨s₃, hact, hrows⟩ := Option.map_eq_some_iff.1 h₂
  obtain ⟨hbefore, hafter⟩ := Prod.mk.inj hrows
  have hrow : s₂.world.db.row ⟨0⟩ = none :=
    Option.not_isSome_iff_eq_none.1 fun hsome => by rw [hbefore] at hsome; cases hsome
  refine ⟨s₁, s₂, s₃, harr, .of_play hcalls, hact, hrow, ?_⟩
  refine ((own_rows_only (p := sampleTeacher) ⟨sampleWorld, initial_sampleWorld, .refl _⟩ rfl harr
    (.of_play hcalls) hact).1 ⟨0⟩ fun hsame => ?_).2.1
  rw [hsame, hrow] at hafter
  cases hafter

end KlassGateway
