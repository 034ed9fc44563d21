import KlassGateway.Requests
/-!
# Who hands a job over

A job id is drawn by a request, which hands it over once: it adds a message to the stream, or it
submits the job itself.  The run for a message submits the job to the renderer at most once, and a
run that fails may put the message back with the next attempt, which is its last call.

`jobsSpec` says this of the calls of a task.  `follows_entry` and `follows_request` are the results:
the runs and the requests follow it.
-/

namespace KlassGateway

open Lib Lib.Prog Db Orchestrator Queue MediaGen Api

variable {A : AppState}

/-! ## The discipline -/

/-- Where a task stands. -/
inductive JobMode where
  /-- A request, with the last id that it has drawn and not handed over. -/
  | free (drawn : Option Uuid)
  /-- The run for an entry, before its submission or after it. -/
  | running (entry : StreamEntry JobMessage) (submitted : Bool)
  /-- A run that has put its message back. -/
  | requeued

namespace JobMode

instance : Inhabited JobMode := ⟨free none⟩

/-- The mode after a call. -/
def after (m : JobMode) (o : Operation) (r : o.Resp) : JobMode :=
  match m, o, r with
  | free _, .newUuid, u => free (some u)
  | free _, .command (.xadd _), _ => free none
  | free _, .postJob _, _ => free none
  | running e _, .postJob _, _ => running e true
  | running _ _, .command (.xadd _), _ => requeued
  | m, _, _ => m

end JobMode

/-- The message of the next attempt. -/
structure NextAttempt (message next : JobMessage) : Prop where
  generationId : next.generationId = message.generationId
  jobId : next.jobId = message.jobId
  attempt : next.attempt = message.attempt + 1
  allowed : next.attempt ≤ maxTries

/-- A request hands over the id that it has drawn, and a run its own job. -/
def jobsSpec : OpSpec effects JobMode where
  pre m o := match m, o with
    | .free drawn, .command (.xadd message) =>
      ∃ j, drawn = some j ∧ message.jobId = some j ∧ message.attempt = 1
    | .free drawn, .postJob request => drawn = some request.job.jobId
    | .running e _, .command (.xadd message) => NextAttempt e.fields message
    | .running e submitted, .postJob request =>
      submitted = false ∧ e.fields.jobId = some request.job.jobId
    | .requeued, _ => False
    | _, _ => True
  step m o r m' := m' = m.after o r

/-! ## Quiet calls -/

/-- A call that neither adds a message nor submits a job. -/
def QuietCall : Operation → Prop
  | .command (.xadd _) => False
  | .postJob _ => False
  | _ => True

/-- A quiet call that draws no id. -/
def StillCall (o : Operation) : Prop := QuietCall o ∧ o ≠ .newUuid

/-- A quiet call of a run keeps its mode. -/
theorem running_of_quiet {e : StreamEntry JobMessage} {b : Bool} {o : Operation}
    (ho : QuietCall o) :
    jobsSpec.pre (.running e b) o ∧
      ∀ r m, jobsSpec.step (.running e b) o r m → m = .running e b := by
  cases o with
  | postJob request => cases ho
  | command c =>
    cases c with
    | xadd message => cases ho
    | _ => exact ⟨trivial, fun _ _ h => h⟩
  | _ => exact ⟨trivial, fun _ _ h => h⟩

/-- A quiet call of a request leaves it a request. -/
theorem free_of_quiet {o : Operation} (ho : QuietCall o) {m : JobMode} (hm : ∃ d, m = .free d) :
    jobsSpec.pre m o ∧ ∀ r m', jobsSpec.step m o r m' → ∃ d, m' = .free d := by
  obtain ⟨d, rfl⟩ := hm
  cases o with
  | postJob request => cases ho
  | command c =>
    cases c with
    | xadd message => cases ho
    | _ => exact ⟨trivial, fun _ _ h => ⟨d, h⟩⟩
  | newUuid => exact ⟨trivial, fun u _ h => ⟨some u, h⟩⟩
  | _ => exact ⟨trivial, fun _ _ h => ⟨d, h⟩⟩

/-- A still call of a request keeps what it has drawn. -/
theorem free_of_still {o : Operation} (ho : StillCall o) {d : Option Uuid} :
    jobsSpec.pre (.free d) o ∧ ∀ r m, jobsSpec.step (.free d) o r m → m = .free d := by
  refine ⟨(free_of_quiet ho.1 ⟨d, rfl⟩).1, fun r m hm => ?_⟩
  cases o with
  | postJob request => exact ho.1.elim
  | newUuid => exact absurd rfl ho.2
  | command c =>
    cases c with
    | xadd message => exact ho.1.elim
    | _ => exact hm
  | _ => exact hm

/-- What a program that ends as a request leaves. -/
def Free {α : Type} (_ : α) (m : JobMode) : Prop := ∃ d, m = .free d

/-- What a program that ends as the run for an entry leaves. -/
def Running (e : StreamEntry JobMessage) {α : Type} (_ : α) (m : JobMode) : Prop :=
  ∃ b, m = .running e b

section Rules

variable {α β ε : Type} {e : StreamEntry JobMessage} {b : Bool} {d : Option Uuid}

theorem wp_quiet_free {p : Gateway α} (hp : OnlyCalls QuietCall p) : p.wp jobsSpec Free (.free d) :=
  hp.wp_pre ⟨d, rfl⟩ fun _ _ hm ho => free_of_quiet ho hm

theorem wp_still_free {p : Gateway α} (hp : OnlyCalls StillCall p) :
    p.wp jobsSpec (fun _ m => m = .free d) (.free d) :=
  hp.wp fun _ ho => free_of_still ho

theorem wp_quiet_running {p : Gateway α} (hp : OnlyCalls QuietCall p) :
    p.wp jobsSpec (fun _ m => m = .running e b) (.running e b) :=
  hp.wp fun _ ho => running_of_quiet ho

/-- A quiet step of a request, and what comes after it. -/
theorem free_bind {p : GatewayResult ε α} {f : α → GatewayResult ε β}
    (hp : OnlyCalls QuietCall p.run) (hf : ∀ a d, (f a).run.wp jobsSpec Free (.free d)) :
    (p >>= f).run.wp jobsSpec Free (.free d) := by
  refine (wp_run_bind _ _ _ _).2 (wp_mono (fun r m hm => ?_) (wp_quiet_free hp))
  obtain ⟨d', rfl⟩ := hm
  cases r with
  | ok a => exact hf a d'
  | error err => exact ⟨d', rfl⟩

/-- A quiet step of a run, and what comes after it. -/
theorem running_bind {p : GatewayResult ε α} {f : α → GatewayResult ε β}
    (hp : OnlyCalls QuietCall p.run)
    (hf : ∀ a, (f a).run.wp jobsSpec (Running e) (.running e b)) :
    (p >>= f).run.wp jobsSpec (Running e) (.running e b) := by
  refine (wp_run_bind _ _ _ _).2 (wp_mono (fun r m hm => ?_) (wp_quiet_running hp))
  subst hm
  cases r with
  | ok a => exact hf a
  | error err => exact ⟨b, rfl⟩

end Rules

theorem still_query {q : Query} : OnlyCalls StillCall (query q).run :=
  only_query ⟨trivial, by rintro ⟨⟩⟩

theorem still_loadSpec (id : Uuid) : OnlyCalls StillCall (loadSpec id).run := by
  refine safe_run_bind (safe_run_mapErr still_query) fun r => ?_
  cases r with
  | none => exact safe_run_throw _
  | some row =>
    dsimp only
    split
    · exact safe_run_throw _
    · exact safe_run_pure _

theorem still_updateRow (id : Uuid) (u : RowUpdate) (failure absent : String) :
    OnlyCalls StillCall (updateRow id u failure absent).run := by
  refine safe_run_bind (safe_run_mapErr still_query) fun r => ?_
  cases r with
  | some _ => exact safe_run_pure _
  | none => exact safe_run_throw _

theorem quiet_updateRow (id : Uuid) (u : RowUpdate) (failure absent : String) :
    OnlyCalls QuietCall (updateRow id u failure absent).run :=
  (still_updateRow id u failure absent).mono fun _ h => h.1

/-! ## Workers -/

section Worker

variable {P : Platform} {url : String} {e : StreamEntry JobMessage} {T : RowStatement → Prop}
  {g : Uuid}

theorem quiet_of_rowCall (o : Operation) (h : RowCall T g o) : QuietCall o := by
  cases o with
  | command c => cases h
  | postJob request => cases h
  | _ => trivial

theorem quiet_of_deliverCall (o : Operation) (h : DeliverCall T g o) : QuietCall o := by
  obtain (h | h) | h := h
  · exact quiet_of_rowCall o h
  · cases o with
    | command c => cases h
    | postJob request => cases h
    | _ => trivial
  · cases o with
    | command c => cases h
    | postJob request => cases h
    | _ => trivial

/-- A phase keeps what its body keeps. -/
theorem wp_jobs_timedStep {step : StepName} {body : GatewayResult WorkflowError Unit}
    {Q : Except WorkflowError Unit → JobMode → Prop} {b : Bool}
    (h : body.run.wp jobsSpec (fun r m => Q r m ∧ Running e r m) (.running e b)) :
    (timedStep step body).run.wp jobsSpec Q (.running e b) := by
  refine (wp_bind _ _ _ _).2 ((wp_span _ _).2 ⟨trivial, fun _ m hm => ?_⟩)
  obtain rfl := hm
  refine (wp_bind _ _ _ _).2 (wp_mono (fun r m hr => ?_) h)
  obtain ⟨hQ, b', rfl⟩ := hr
  refine (wp_bind _ _ _ _).2 ((wp_span _ _).2 ⟨trivial, fun _ m hm => ?_⟩)
  obtain rfl := hm
  exact hQ

/-- A run submits its own job, once. -/
theorem follows_submitGeneration :
    (submitGeneration (workerSteps P url) g e.fields.jobId).run.wp jobsSpec (Running e)
      (.running e false) := by
  cases hjob : e.fields.jobId with
  | none => exact ⟨false, rfl⟩
  | some jobId =>
    have hmark (b : Bool) : (do
        let _ ← mapErr WorkflowError.database (query (.onRow g (.update .markProcessing)))
        : GatewayResult WorkflowError Unit).run.wp jobsSpec (Running e) (.running e b) :=
      running_bind (safe_run_mapErr (only_query trivial)) fun _ => ⟨b, rfl⟩
    refine (wp_run_bind _ _ _ _).2 ((wp_run_mapErr _ _ _ _).2 ?_)
    refine (wp_run_bind _ _ _ _).2 (wp_mono (fun r m hm => ?_)
      (wp_quiet_running ((still_loadSpec g).mono fun _ h => h.1)))
    subst hm
    cases r with
    | error err => exact ⟨false, rfl⟩
    | ok spec =>
      refine (wp_run_bind _ _ _ _).2 ((wp_run_liftM _ _ _).2
        ((wp_postJob _ _).2 ⟨⟨rfl, hjob⟩, fun reply m hm => ?_⟩))
      obtain rfl := hm
      dsimp only
      split
      · exact hmark true
      · exact ⟨true, rfl⟩

theorem follows_process (attempt : Option Int) (jobContext : Option Json) :
    (process P (workerSteps P url) g e.fields.jobId attempt jobContext).run.wp jobsSpec
      (Running e) (.running e false) := by
  refine running_bind (safe_run_mapErr ((only_initializeAudit (T := fun _ => True) trivial).mono
    quiet_of_rowCall)) fun _ => running_bind ((only_getStatus (T := fun _ => True)).mono
      quiet_of_rowCall) fun s => ?_
  split
  · exact ⟨false, rfl⟩
  · refine running_bind (safe_timedStep (fun _ _ => trivial) (only_ensureClassified.mono fun o h =>
      quiet_of_deliverCall o (.inl h))) fun _ => ?_
    refine (wp_run_bind _ _ _ _).2 (wp_jobs_timedStep ?_)
    refine wp_mono (fun r m hm => ⟨?_, hm⟩) (running_bind (only_beginGenerating.mono
      quiet_of_rowCall) fun _ => follows_submitGeneration)
    obtain ⟨b, rfl⟩ := hm
    have hdeliver : OnlyCalls QuietCall
        (deliver (workerSteps P url) g (attempt.getD 1) jobContext).run :=
      safe_deliver (fun o h _ => quiet_of_deliverCall o h)
        ((only_composeStep (T := fun _ => True) fun _ => trivial).mono fun o h =>
          quiet_of_deliverCall o (.inl h))
    cases r with
    | error err => exact ⟨b, rfl⟩
    | ok _ => exact wp_mono (fun _ m hm => ⟨b, hm⟩) (wp_quiet_running hdeliver)

theorem quiet_ackEntry (entryId : Nat) : OnlyCalls QuietCall (ackEntry entryId) := by
  refine safe_bind (only_command trivial) fun r => ?_
  cases r with
  | ok _ => exact safe_bind (only_command trivial) fun _ => safe_ret _
  | error _ => exact safe_ret _

theorem quiet_sendToDlq (attemptNo : Int) (code message : String) :
    OnlyCalls QuietCall (sendToDlq P g attemptNo code message) := by
  have hfail (o : Operation) (h : FailCall g o) : QuietCall o := by
    cases o with
    | query q => trivial
    | _ => cases h
  exact safe_bind (only_utcNow trivial) fun _ => safe_bind (only_utcNow trivial) fun _ =>
    safe_bind (safe_run_bind (only_command trivial) fun _ => only_command trivial) fun _ =>
      safe_bind ((only_markFailed _ _ _ _ _ _).mono hfail) fun _ => safe_ret _

/-- A run puts its message back with the next attempt, which is its last call. -/
theorem follows_reenqueue {b : Bool} (hallowed : e.fields.attempt + 1 ≤ maxTries) :
    (reenqueue e.id e.fields).wp jobsSpec (fun _ _ => True) (.running e b) := by
  refine (wp_bind _ _ _ _).2 ((wp_command _ _).2 ⟨trivial, fun r m hm => ?_⟩)
  obtain rfl := hm
  cases r with
  | error _ => trivial
  | ok _ =>
    refine (wp_bind _ _ _ _).2 ((wp_command _ _).2 ⟨trivial, fun r m hm => ?_⟩)
    obtain rfl := hm
    refine (wp_bind _ _ _ _).2 ((wp_utcNow _).2 ⟨trivial, fun now m hm => ?_⟩)
    obtain rfl := hm
    exact (wp_bind _ _ _ _).2 ((wp_command _ _).2
      ⟨⟨rfl, rfl, rfl, hallowed⟩, fun _ _ _ => trivial⟩)

theorem follows_handleFailure {b : Bool} (text : String) :
    (handleFailure P e.id e.fields text).wp jobsSpec (fun _ _ => True) (.running e b) := by
  have hdead (attemptNo : Int) (code : String) : (sendToDlq P e.fields.generationId attemptNo code
      text >>= fun _ => ackEntry e.id).wp jobsSpec (fun _ _ => True) (.running e b) :=
    wp_mono (fun _ _ _ => trivial)
      (wp_quiet_running (safe_bind (quiet_sendToDlq _ _ _) fun _ => quiet_ackEntry _))
  unfold handleFailure
  split
  · exact hdead _ _
  · split
    · exact hdead _ _
    · next hmore => exact follows_reenqueue (by omega)

/-- The task for an entry follows the discipline as its run. -/
theorem follows_entry : (entryTask A e).2.wp jobsSpec (fun _ _ => True) (.running e false) := by
  refine (wp_bind _ _ _ _).2 (wp_mono (fun r m hm => ?_) (follows_process _ _))
  obtain ⟨b, rfl⟩ := hm
  cases r with
  | ok _ => exact wp_mono (fun _ _ _ => trivial) (wp_quiet_running (quiet_ackEntry _))
  | error err => exact follows_handleFailure _

end Worker

/-! ## Requests -/

section Requests

theorem quiet_findByIdForTeacher (id : Uuid) (teacherId : Int) :
    OnlyCalls QuietCall (findByIdForTeacher id teacherId).run :=
  safe_run_bind (safe_run_mapErr (only_query trivial)) fun _ => safe_run_pure _

theorem quiet_requireTeacher (principal : Principal) :
    OnlyCalls QuietCall (requireTeacher principal).run := by
  unfold requireTeacher
  split
  · exact safe_run_throw _
  · exact safe_run_pure _

theorem quiet_checkRateLimit (principal : Principal) (endpoint : String) :
    OnlyCalls QuietCall (checkRateLimit A principal endpoint).run := by
  unfold checkRateLimit
  split
  · refine safe_run_bind (safe_run_liftM (only_perform (I := effects) trivial)) fun b => ?_
    split
    · exact safe_run_throw _
    · exact safe_run_pure _
  · exact safe_run_pure _

theorem quiet_lookupDuplicate (P : Platform) (input : CreateInput) :
    OnlyCalls QuietCall (lookupDuplicate P input).run := safe_run_mapErr (only_query trivial)

theorem quiet_createOrReuse (P : Platform) (input : CreateInput) :
    OnlyCalls QuietCall (createOrReuse P input).run := by
  refine safe_run_bind (quiet_lookupDuplicate P input) fun r => ?_
  cases r with
  | some id => exact safe_run_pure _
  | none =>
    refine safe_run_bind (safe_run_liftM (only_newV4 trivial)) fun id =>
      safe_run_bind (safe_run_resultOf (only_query trivial)) fun r => ?_
    cases r with
    | ok _ => exact safe_run_pure _
    | error err =>
      dsimp only
      unfold recoverInsert
      split
      · refine safe_run_bind (quiet_lookupDuplicate P input) fun r => ?_
        cases r with
        | some id => exact safe_run_pure _
        | none => exact safe_run_throw _
      · exact safe_run_throw _

theorem quiet_createRegeneration (P : Platform) (parentId : Uuid) (prompt : String) :
    OnlyCalls QuietCall (createRegeneration P parentId prompt).run := by
  refine safe_run_bind (safe_run_mapErr (only_query trivial)) fun r => ?_
  cases r with
  | none => exact safe_run_throw _
  | some parent =>
    exact safe_run_bind (safe_run_liftM (only_newV4 trivial)) fun id =>
      safe_run_bind (safe_run_mapErr (only_query trivial)) fun _ => safe_run_pure _

theorem quiet_jobIdOr (row : MediaGeneration) : OnlyCalls QuietCall (jobIdOr row) := by
  unfold jobIdOr
  split
  · exact safe_ret _
  · exact only_newV4 trivial

theorem quiet_answerExisting (principal : Principal) (generationId : Uuid) :
    OnlyCalls QuietCall (answerExisting principal generationId).run := by
  refine safe_run_bind (safe_run_mapErr (quiet_findByIdForTeacher _ _)) fun r => ?_
  cases r with
  | none => exact safe_run_throw _
  | some row => exact safe_run_bind (safe_run_liftM (quiet_jobIdOr row)) fun _ => safe_run_pure _

theorem quiet_answerTerminal (row : MediaGeneration) :
    OnlyCalls QuietCall (answerTerminal row).run :=
  safe_run_bind (safe_run_liftM (quiet_jobIdOr row)) fun _ => safe_run_pure _

theorem quiet_answerRegeneration (principal : Principal) (generationId : Uuid) :
    OnlyCalls QuietCall (answerRegeneration principal generationId).run := by
  refine safe_run_bind (safe_run_mapErr (quiet_findByIdForTeacher _ _)) fun r => ?_
  cases r with
  | none => exact safe_run_throw _
  | some _ => exact safe_run_pure _

/-- A call of the handlers is quiet where it neither adds a message nor submits a job. -/
theorem quiet_webhookHandler (payload : MediaWebhookPayload) :
    OnlyCalls QuietCall (webhookHandler A payload).run := by
  have hs3 (id : Uuid) : OnlyCalls QuietCall (storeS3Metadata id payload).run := by
    unfold storeS3Metadata
    split
    · exact safe_run_bind (safe_run_liftM (only_utcNow trivial)) fun _ =>
        safe_run_mapErr (quiet_updateRow _ _ _ _)
    · exact safe_run_pure _
  refine safe_run_bind (safe_run_mapErr (safe_run_mapErr (only_query trivial))) fun r => ?_
  cases r with
  | none => exact safe_run_throw _
  | some row =>
    dsimp only
    split_ifs
    · exact safe_run_pure _
    · exact safe_run_bind (safe_run_bind (hs3 _) fun _ =>
        safe_run_bind (safe_run_mapErr (quiet_updateRow _ _ _ _)) fun _ =>
          safe_run_mapErr (quiet_updateRow _ _ _ _)) fun _ => safe_run_pure _
    · exact safe_run_bind (safe_run_bind (safe_run_mapErr (quiet_updateRow _ _ _ _)) fun _ =>
        safe_run_mapErr (quiet_updateRow _ _ _ _)) fun _ => safe_run_pure _
    · exact safe_run_throw _

theorem quiet_createConsumerGroup : OnlyCalls QuietCall createConsumerGroup.run := by
  refine safe_run_bind (only_command trivial) fun _ =>
    safe_run_bind (safe_run_resultOf (only_command trivial)) fun r => ?_
  cases r with
  | ok _ => exact safe_run_pure _
  | error _ =>
    dsimp only
    split
    · exact safe_run_pure _
    · exact safe_run_throw _

theorem quiet_claimPending (consumer : String) :
    OnlyCalls QuietCall (claimPending consumer).run := by
  have hall (ids : List Nat) : OnlyCalls QuietCall (claimAll consumer ids) := by
    induction ids with
    | nil => exact safe_ret _
    | cons entryId rest ih => exact safe_bind (only_command trivial) fun _ => ih
  exact safe_run_bind (only_command trivial) fun _ =>
    safe_run_bind (only_command trivial) fun ids => safe_run_liftM (hall ids)

/-- The hand-over of the id that was drawn last. -/
theorem free_handOver (generationId jobId : Uuid) :
    (handOver A generationId jobId).wp jobsSpec Free (.free (some jobId)) := by
  unfold handOver
  split
  · refine (wp_bind _ _ _ _).2 ((wp_run_bind _ _ _ _).2 ((wp_command _ _).2
      ⟨trivial, fun r m hm => ?_⟩))
    obtain rfl := hm
    cases r with
    | error err => exact ⟨_, rfl⟩
    | ok _ =>
      refine (wp_run_bind _ _ _ _).2 ((wp_run_liftM _ _ _).2 ((wp_utcNow _).2
        ⟨trivial, fun now m hm => ?_⟩))
      obtain rfl := hm
      refine (wp_command _ _).2 ⟨⟨jobId, rfl, rfl, rfl⟩, fun r m hm => ?_⟩
      obtain rfl := hm
      exact ⟨none, rfl⟩
  · exact ⟨_, rfl⟩

/-- A request hands over the job that it has drawn. -/
theorem free_startJob (generationId : Uuid) (d : Option Uuid) :
    (startJob A generationId).run.wp jobsSpec Free (.free d) := by
  refine (wp_run_draw _ _).2 ⟨trivial, fun jobId m hm => ?_⟩
  obtain rfl := hm
  refine (wp_run_bind _ _ _ _).2 ((wp_run_mapErr _ _ _ _).2
    (wp_mono (fun r m hm => ?_) (wp_still_free (still_updateRow _ _ _ _))))
  subst hm
  cases r with
  | error err => exact ⟨_, rfl⟩
  | ok _ =>
    refine (wp_run_bind _ _ _ _).2 ((wp_run_liftM _ _ _).2
      (wp_mono (fun _ m hm => ?_) (free_handOver generationId jobId)))
    exact hm

/-- A regeneration submits the job that it has drawn. -/
theorem free_startRegeneration (generationId : Uuid) (d : Option Uuid) :
    (startRegeneration A generationId).wp jobsSpec Free (.free d) := by
  refine (wp_bind _ _ _ _).2 ((wp_newV4 _).2 ⟨trivial, fun jobId m hm => ?_⟩)
  obtain rfl := hm
  refine (wp_bind _ _ _ _).2 (wp_mono (fun _ m hm => ?_) (wp_still_free (still_updateRow _ _ _ _)))
  subst hm
  refine (wp_bind _ _ _ _).2 ((wp_run_bind _ _ _ _).2 (wp_mono (fun r m hm => ?_)
    (wp_still_free (still_loadSpec generationId))))
  subst hm
  cases r with
  | error err => exact ⟨_, rfl⟩
  | ok spec =>
    refine (wp_run_bind _ _ _ _).2 ((wp_run_liftM _ _ _).2
      ((wp_postJob _ _).2 ⟨rfl, fun reply m hm => ?_⟩))
    obtain rfl := hm
    dsimp only
    split
    · exact ⟨none, rfl⟩
    · exact ⟨none, rfl⟩

theorem free_reprocess (generationId : Uuid) (prompt : String) (state : Json) (skipped : Bool)
    (message : String) (d : Option Uuid) :
    (reprocess A generationId prompt state skipped message).run.wp jobsSpec Free (.free d) :=
  free_bind (safe_run_mapErr (quiet_updateRow _ _ _ _)) fun _ _ =>
    free_bind (safe_run_liftM (only_utcNow trivial)) fun _ _ =>
      free_bind (safe_run_mapErr (quiet_updateRow _ _ _ _)) fun _ d =>
        (wp_run_bind _ _ _ _).2 (wp_mono (fun r _ hm => by cases r <;> exact hm)
          (free_startJob generationId d))

theorem free_create (principal : Principal) (payload : CreateRequest) (d : Option Uuid) :
    (create A principal payload).run.wp jobsSpec Free (.free d) := by
  refine free_bind (quiet_requireTeacher _) fun _ _ => free_bind (quiet_checkRateLimit _ _)
    fun _ _ => free_bind (safe_run_mapErr (quiet_createOrReuse _ _)) fun result d => ?_
  split
  · exact (wp_run_bind _ _ _ _).2 (wp_mono (fun r _ hm => by cases r <;> exact hm)
      (free_startJob result.id d))
  · exact wp_quiet_free (quiet_answerExisting _ _)

theorem free_regenerate (principal : Principal) (id : Uuid) (prompt : String) (d : Option Uuid) :
    (regenerate A principal id prompt).run.wp jobsSpec Free (.free d) := by
  refine free_bind (quiet_requireTeacher _) fun _ _ => free_bind (quiet_checkRateLimit _ _)
    fun _ _ => free_bind (safe_run_mapErr (quiet_findByIdForTeacher _ _)) fun r d => ?_
  cases r with
  | none => exact ⟨d, rfl⟩
  | some parent =>
    dsimp only
    split
    · exact ⟨d, rfl⟩
    · refine free_bind (safe_run_mapErr (quiet_createRegeneration _ _ _)) fun newId d => ?_
      refine (wp_run_bind _ _ _ _).2 ((wp_run_liftM _ _ _).2 (wp_mono (fun _ m hm => ?_)
        (free_startRegeneration newId d)))
      obtain ⟨d', rfl⟩ := hm
      exact wp_quiet_free (quiet_answerRegeneration _ _)

theorem free_confirm (principal : Principal) (payload : ConfirmRequest) (d : Option Uuid) :
    (confirm A principal payload).run.wp jobsSpec Free (.free d) := by
  refine free_bind (quiet_requireTeacher _) fun _ d => ?_
  split
  · exact ⟨d, rfl⟩
  · refine free_bind (safe_run_mapErr (quiet_findByIdForTeacher _ _)) fun r d => ?_
    cases r with
    | some row =>
      dsimp only
      split
      · exact wp_quiet_free (quiet_answerTerminal row)
      · exact free_reprocess _ _ _ _ _ d
    | none =>
      exact free_bind (safe_run_mapErr (quiet_createOrReuse _ _)) fun result d =>
        free_reprocess _ _ _ _ _ d

theorem free_skipClarification (principal : Principal) (id : Uuid) (d : Option Uuid) :
    (skipClarification A principal id).run.wp jobsSpec Free (.free d) := by
  refine free_bind (quiet_requireTeacher _) fun _ _ =>
    free_bind (safe_run_mapErr (quiet_findByIdForTeacher _ _)) fun r d => ?_
  cases r with
  | none => exact ⟨d, rfl⟩
  | some row =>
    dsimp only
    split
    · exact wp_quiet_free (quiet_answerTerminal row)
    · exact free_reprocess _ _ _ _ _ d

end Requests

/-- Every request follows the discipline. -/
theorem follows_request {l : Label} {p : Gateway Unit} (h : Spawned A l p)
    (hkind : ∀ message, l.kind ≠ .worker message) :
    p.wp jobsSpec (fun _ _ => True) (.free none) := by
  have respond {q : GatewayResult AppError Accepted} (hq : q.run.wp jobsSpec Free (.free none)) :
      (respondWith q).wp jobsSpec (fun _ _ => True) (.free none) :=
    (wp_bind _ _ _ _).2 (wp_mono (fun _ _ _ => trivial) hq)
  have quiet {q : Gateway Unit} (hq : OnlyCalls QuietCall q) :
      q.wp jobsSpec (fun _ _ => True) (.free none) :=
    wp_mono (fun _ _ _ => trivial) (wp_quiet_free hq)
  cases h with
  | create principal payload => exact respond (free_create principal payload none)
  | regenerate principal id prompt => exact respond (free_regenerate principal id prompt none)
  | confirm principal payload => exact respond (free_confirm principal payload none)
  | skipClarification principal id => exact respond (free_skipClarification principal id none)
  | bootWorker => exact quiet (safe_bind quiet_createConsumerGroup fun _ => safe_ret _)
  | claimPending consumer => exact quiet (safe_bind (quiet_claimPending consumer) fun _ => safe_ret _)
  | webhook payload => exact quiet (safe_bind (quiet_webhookHandler payload) fun _ => safe_ret _)
  | entry e => exact absurd rfl (hkind e.fields)

end KlassGateway
