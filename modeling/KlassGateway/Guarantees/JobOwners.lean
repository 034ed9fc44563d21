import KlassGateway.Guarantees.Callback
import KlassGateway.Guarantees.OwnRows
import KlassGateway.Lib.Naming
/-!
# The generation of a job

A job id is written in four places: in the row of its generation, in the messages of the stream,
in the jobs of the renderer, and in the callbacks.  The webhook looks up a row by the job id alone,
so all of them must mean one generation.

* `gatewayJobs` says what the calls of the gateway do to job ids.
* `follows_spawned`: every task binds the id that it has drawn, or names a job with its generation.
* `job_owner_unique`: a job id names one generation, wherever it is written.
-/

namespace KlassGateway.JobOwners

open Lib Lib.Prog Db Orchestrator Queue MediaGen Api

variable {A : AppState}

/-! ## Job ids in the world -/

/-- A job of the generation is named somewhere. -/
inductive NamesJob (w : World) (g jobId : Uuid) : Prop
  | row (row : MediaGeneration) (hmem : row ∈ w.db.rows) (hid : row.id = g)
      (hjob : row.generationJobId = some jobId)
  | message (e : StreamEntry JobMessage) (hmem : e ∈ w.redis.jobs.entries)
      (hid : e.fields.generationId = g) (hjob : e.fields.jobId = some jobId)
  | accepted (hmem : (⟨g, jobId⟩ : RenderJob) ∈ w.renderer.accepted)
  | owed (hmem : (⟨g, jobId⟩ : RenderJob) ∈ w.renderer.owed)
  | reported (payload : MediaWebhookPayload) (hmem : payload ∈ w.renderer.reported)
      (hid : payload.generationId = g) (hjob : payload.jobId = jobId)

/-- The job that a call names, with its generation. -/
def bindsJob : Operation → Option (Uuid × Uuid)
  | .query (.onRow id (.update (.generationJobStatus (some jobId) _))) => some (id, jobId)
  | .command (.xadd message) => message.jobId.map fun jobId => (message.generationId, jobId)
  | .postJob request => some (request.job.generationId, request.job.jobId)
  | _ => none

/-- The call inserts no row that has a job already. -/
def InsertsNoJob : Operation → Prop
  | .query (.insertSubmission row) => row.generationJobId = none
  | .query (.insertRegeneration _ row) => row.generationJobId = none
  | _ => True

/-- The job ids of the gateway. -/
def gatewayJobs (A : AppState) : Naming (system A) Uuid Uuid where
  bound := NamesJob
  drawn w jobId := jobId.value < w.nextUuid
  allowed := InsertsNoJob
  draws
    | .newUuid, jobId => some jobId
    | _, _ => none
  binds := bindsJob
  learns
    | .query (.findByJobId jobId), .ok (some (row : MediaGeneration)) => [(row.id, jobId)]
    | _, _ => []

/-! ## The laws -/

section Laws

variable {w : World} {g jobId : Uuid}

/-- The job of a row after a call: that of the row before, or the one that the call names. -/
theorem job_of_row {o : Operation} (ho : InsertsNoJob o) (c : Choice) :
    ∀ row ∈ (o.exec w c).2.db.rows, ∀ jobId, row.generationJobId = some jobId →
      NamesJob w row.id jobId ∨ bindsJob o = some (row.id, jobId) := by
  refine o.forall_rows_exec (fun row hmem jobId hjob => Or.inl (.row row hmem rfl hjob))
    (fun q row hq hrow _ jobId hjob => ?_) fun id st row hst hmem hid jobId hjob => ?_
  · subst hq
    have hnone : row.generationJobId = none := by
      obtain ⟨row', teacherId, rfl, rfl | ⟨parentId, rfl⟩⟩ := Query.inserted_cases hrow
      · exact ho
      · exact ho
    cases hnone.symm.trans hjob
  · subst hst
    rw [RowStatement.row_id]
    obtain hkeep | ⟨written, status, rfl, hwrite⟩ :=
      row_jobId row st c.clock c.publication w.db.nextProjectId
    · exact Or.inl (.row row hmem rfl (hkeep.symm.trans hjob))
    · obtain rfl : written = some jobId := hwrite.symm.trans hjob
      rw [hid]
      exact Or.inr rfl

/-- A command keeps the messages, but for the one that it adds. -/
theorem entries_exec (r : Redis) (cmd : Command) :
    (cmd.exec r).2.jobs.entries = r.jobs.entries ∨ ∃ message entryId, cmd = .xadd message ∧
      (cmd.exec r).2.jobs.entries = r.jobs.entries ++ [⟨entryId, message⟩] := by
  cases cmd with
  | xadd message => exact Or.inr ⟨message, _, rfl, rfl⟩
  | xgroupCreate =>
    unfold Command.exec Stream.createGroup
    cases r.jobs.group with
    | none => exact Or.inl rfl
    | some group => exact Or.inl rfl
  | xpending count =>
    simp only [Command.exec]
    split
    · exact Or.inl rfl
    · exact Or.inl rfl
  | _ => exact Or.inl rfl

/-- The job of a message after a call was named before it, or it is the one that the call names. -/
theorem job_of_message {o : Operation} (c : Choice) {e : StreamEntry JobMessage}
    (hmem : e ∈ (o.exec w c).2.redis.jobs.entries) (hjob : e.fields.jobId = some jobId) :
    NamesJob w e.fields.generationId jobId ∨ bindsJob o = some (e.fields.generationId, jobId) := by
  obtain hredis | ⟨cmd, rfl, hredis⟩ := o.exec_redis w c
  · rw [hredis] at hmem
    exact Or.inl (.message e hmem rfl hjob)
  · rw [hredis] at hmem
    obtain hsame | ⟨message, entryId, rfl, hadded⟩ := entries_exec w.redis cmd
    · rw [hsame] at hmem
      exact Or.inl (.message e hmem rfl hjob)
    · rw [hadded] at hmem
      rcases List.mem_append.1 hmem with hold | hnew
      · exact Or.inl (.message e hold rfl hjob)
      · obtain rfl := List.mem_singleton.1 hnew
        exact Or.inr (congrArg (Option.map _) hjob)

/-- The renderer has the jobs that it had, and the one that is submitted to it. -/
theorem renderJobs_exec (w : World) (o : Operation) (c : Choice) :
    (∀ job ∈ (o.exec w c).2.renderer.accepted, job ∈ w.renderer.accepted ∨
      ∃ request, o = .postJob request ∧ request.job = job) ∧
    (∀ job ∈ (o.exec w c).2.renderer.owed, job ∈ w.renderer.owed ∨
      ∃ request, o = .postJob request ∧ request.job = job) ∧
    (o.exec w c).2.renderer.reported = w.renderer.reported := by
  obtain hsame | ⟨request, rfl, hsubmit⟩ := o.exec_renderer w c
  · rw [hsame]
    exact ⟨fun _ => Or.inl, fun _ => Or.inl, rfl⟩
  · rw [hsubmit]
    unfold Renderer.submit
    split
    · refine ⟨fun job hmem => ?_, fun job hmem => ?_, rfl⟩
      · rcases List.mem_cons.1 hmem with rfl | hold
        · exact Or.inr ⟨request, rfl, rfl⟩
        · exact Or.inl hold
      · rcases List.mem_cons.1 hmem with rfl | hold
        · exact Or.inr ⟨request, rfl, rfl⟩
        · exact Or.inl hold
    · exact ⟨fun _ => Or.inl, fun _ => Or.inl, rfl⟩

/-- A job that is named after a call was named before, or it is the one of the call. -/
theorem names_of_exec {o : Operation} (ho : InsertsNoJob o) (c : Choice)
    (h : NamesJob (o.exec w c).2 g jobId) : NamesJob w g jobId ∨ bindsJob o = some (g, jobId) := by
  obtain ⟨haccepted, howed, hreported⟩ := renderJobs_exec w o c
  cases h with
  | row row hmem hid hjob => exact hid ▸ job_of_row ho c row hmem jobId hjob
  | message e hmem hid hjob => exact hid ▸ job_of_message c hmem hjob
  | accepted hmem =>
    obtain hold | ⟨request, rfl, hjob⟩ := haccepted _ hmem
    · exact Or.inl (.accepted hold)
    · exact Or.inr (congrArg (fun job : RenderJob => some (job.generationId, job.jobId)) hjob)
  | owed hmem =>
    obtain hold | ⟨request, rfl, hjob⟩ := howed _ hmem
    · exact Or.inl (.owed hold)
    · exact Or.inr (congrArg (fun job : RenderJob => some (job.generationId, job.jobId)) hjob)
  | reported payload hmem hid hjob =>
    rw [hreported] at hmem
    exact Or.inl (.reported payload hmem hid hjob)

/-- An arrival names no new job. -/
theorem names_of_arrive {arr : Arrival} {w' : World} {spawned : List (Label × Gateway Unit)}
    (harr : arrive A w arr = some (w', spawned)) (h : NamesJob w' g jobId) :
    NamesJob w g jobId := by
  cases arr with
  | readMessages consumer replyLost =>
    obtain ⟨⟨entries, jobs⟩, hread, he⟩ := Option.map_eq_some_iff.1 harr
    obtain ⟨rfl, -⟩ := Prod.mk.inj he
    obtain ⟨group, -, hread⟩ := Option.map_eq_some_iff.1 hread
    obtain ⟨-, rfl⟩ := Prod.mk.inj hread
    cases h with
    | row row hmem hid hjob => exact .row row hmem hid hjob
    | message e hmem hid hjob => exact .message e hmem hid hjob
    | accepted hmem => exact .accepted hmem
    | owed hmem => exact .owed hmem
    | reported payload hmem hid hjob => exact .reported payload hmem hid hjob
  | callback payload =>
    obtain ⟨renderer, hreport, he⟩ := Option.map_eq_some_iff.1 harr
    obtain ⟨rfl, -⟩ := Prod.mk.inj he
    unfold Renderer.report at hreport
    dsimp only at hreport
    split at hreport
    · next howed =>
      obtain rfl := Option.some.inj hreport
      cases h with
      | row row hmem hid hjob => exact .row row hmem hid hjob
      | message e hmem hid hjob => exact .message e hmem hid hjob
      | accepted hmem => exact .accepted hmem
      | owed hmem => exact .owed (List.mem_of_mem_erase hmem)
      | reported payload' hmem hid hjob =>
        rcases List.mem_cons.1 hmem with rfl | hold
        · subst hid hjob
          exact .owed howed
        · exact .reported payload' hold hid hjob
    · cases hreport
  | duplicateCallback n =>
    obtain ⟨payload, -, he⟩ := Option.map_eq_some_iff.1 harr
    obtain ⟨rfl, -⟩ := Prod.mk.inj he
    exact h
  | _ =>
    obtain ⟨rfl, -⟩ := Prod.mk.inj (Option.some.inj harr)
    exact h

/-- The gateway keeps the laws of names. -/
theorem lawful : (gatewayJobs A).Lawful where
  bound_exec w o c g jobId ho h := names_of_exec ho c h
  drawn_exec w o c jobId h := by
    change jobId.value < (o.exec w c).2.nextUuid
    obtain hsame | ⟨-, hnext⟩ := o.exec_nextUuid w c
    · rw [hsame]
      exact h
    · rw [hnext]
      exact Nat.lt_succ_of_lt h
  fresh w o c jobId h := by
    cases o with
    | newUuid =>
      obtain rfl := Option.some.inj h
      exact ⟨Nat.lt_irrefl _, Nat.lt_succ_self _⟩
    | _ => cases h
  learned w o c g jobId h := by
    cases o with
    | query q =>
      cases q with
      | findByJobId jobId' =>
        change (g, jobId) ∈ (gatewayJobs A).learns (.query (.findByJobId jobId'))
          (Operation.exec w (.query (.findByJobId jobId')) c).1 at h
        simp only [Operation.exec, withFault, Query.exec] at h
        cases hfault : c.fault with
        | none =>
          simp only [hfault] at h
          cases hrow : w.db.rows.find? fun g => g.generationJobId == some jobId' with
          | none =>
            rw [hrow] at h
            cases h
          | some row =>
            have hjob := List.find?_some hrow
            rw [hrow] at h
            obtain ⟨rfl, rfl⟩ := Prod.mk.inj (List.mem_singleton.1 h)
            exact .row row (List.mem_of_find?_eq_some hrow) rfl (eq_of_beq hjob)
        | failed m =>
          simp only [hfault] at h
          cases h
        | lost m =>
          simp only [hfault] at h
          cases h
      | _ => cases h
    | _ => cases h
  bound_arrive w arr w' spawned g jobId harr h := names_of_arrive harr h
  drawn_arrive w arr w' spawned jobId harr h := by
    obtain ⟨jobs, renderer, rfl⟩ := arrive_world harr
    exact h

end Laws

/-! ## The calls -/

/-- A call that names no job. -/
def Unbound (o : Operation) : Prop := InsertsNoJob o ∧ bindsJob o = none

theorem unbound_of_look {o : Operation} (h : LookCall o) : Unbound o := by
  cases o with
  | query q =>
    cases q with
    | insertSubmission row => cases h
    | insertRegeneration parentId row => cases h
    | onRow id st => cases h
    | _ => exact ⟨trivial, rfl⟩
  | command command =>
    cases command with
    | xadd message => cases h
    | _ => exact ⟨trivial, rfl⟩
  | postJob request => cases h
  | _ => exact ⟨trivial, rfl⟩

/-- The names that a task knows only grow. -/
theorem persists_known (pair : Uuid × Uuid) :
    Persists (gatewayJobs A).spec fun m => pair ∈ m.known := by
  intro m o r m' hstep hin
  obtain rfl : m' = (gatewayJobs A).after m o r := hstep
  refine List.mem_append_right _ ?_
  unfold Naming.afterBind
  split
  · split
    · exact List.mem_cons_of_mem _ hin
    · exact hin
  · exact hin

/-- The program follows the discipline once it knows the generation of the job. -/
abbrev Knows (A : AppState) (g jobId : Uuid) {α : Type} (q : Gateway α) : Prop :=
  SafeFrom (gatewayJobs A).spec (fun m => (g, jobId) ∈ m.known) q

section Rules

variable {α β ε : Type} {g jobId : Uuid}

/-- A program that names no job follows the discipline, whatever it knows. -/
theorem safe_unbound {q : Gateway α} (hq : OnlyCalls Unbound q) : Safe (gatewayJobs A).spec q :=
  hq.safe fun o ho m => ⟨ho.1, fun g j hb => by cases ho.2.symm.trans hb⟩

theorem safe_look {q : Gateway α} (hq : OnlyCalls LookCall q) : Safe (gatewayJobs A).spec q :=
  safe_unbound (hq.mono fun _ => unbound_of_look)

theorem knows_bind {q : Gateway α} {f : α → Gateway β} (hq : Knows A g jobId q)
    (hf : ∀ a, Knows A g jobId (f a)) : Knows A g jobId (q.bind f) := (persists_known _).bind hq hf

theorem knows_run_bind {q : GatewayResult ε α} {f : α → GatewayResult ε β}
    (hq : Knows A g jobId q.run) (hf : ∀ a, Knows A g jobId (f a).run) :
    Knows A g jobId (q >>= f).run := (persists_known _).run_bind hq hf

/-- A program that names only the job of a generation follows the discipline if it knows whose job
that is. -/
theorem knows_of_only {q : Gateway α} (hq : OnlyCalls (fun o => InsertsNoJob o ∧
    ∀ pair, bindsJob o = some pair → pair = (g, jobId)) q) : Knows A g jobId q := fun _ hin =>
  wp_mono (fun _ _ _ => trivial) (hq.wp_pre (J := fun m => (g, jobId) ∈ m.known) hin
    fun m o hm ho => ⟨⟨ho.1, fun _ _ hb => Or.inl (ho.2 _ hb ▸ hm)⟩,
      fun r m' hstep => persists_known _ m o r m' hstep hm⟩)

/-- A task that binds the name that it has drawn knows it from then on. -/
theorem known_of_spare {m m' : Lib.Names Uuid Uuid} {o : Operation} {r : o.Resp}
    (hspare : m.spare = some jobId) (hbinds : bindsJob o = some (g, jobId))
    (hstep : (gatewayJobs A).spec.step m o r m') : (g, jobId) ∈ m'.known := by
  obtain rfl : m' = (gatewayJobs A).after m o r := hstep
  refine List.mem_append_right _ ?_
  have hbinds' : (gatewayJobs A).binds o = some (g, jobId) := hbinds
  unfold Naming.afterBind
  rw [hbinds']
  dsimp only
  rw [if_pos hspare]
  exact List.mem_cons_self

end Rules

/-! ## Workers -/

section Worker

variable {P : Platform} {url : String} {message : JobMessage}

/-- The calls of the task for a message: those of its run, and those on the queue, where it adds
the message again or moves its generation to the dead letters. -/
def EntryCall (message : JobMessage) : Operation → Prop
  | .command (.xadd next) =>
    next.generationId = message.generationId ∧ next.jobId = message.jobId
  | .command (.xaddDlq letter) => letter.generationId = message.generationId
  | .command _ => True
  | o => JobCall message.generationId message.jobId o ∨ FailCall message.generationId o

theorem entryCall_of_jobCall (o : Operation) (h : JobCall message.generationId message.jobId o) :
    EntryCall message o := by
  cases o with
  | command command => rcases h with ((h | h) | h) | ⟨_, _, h | ⟨_, h, _⟩⟩ <;> cases h
  | _ => exact Or.inl h

theorem entryCall_now : EntryCall message .now := Or.inl (Or.inl (Or.inl (Or.inl trivial)))

theorem only_ackEntry (entryId : Nat) : OnlyCalls (EntryCall message) (ackEntry entryId) := by
  refine safe_bind (only_command trivial) fun r => ?_
  cases r with
  | ok _ => exact safe_bind (only_command trivial) fun _ => safe_ret _
  | error _ => exact safe_ret _

theorem only_sendToDlq (attemptNo : Int) (code text : String) :
    OnlyCalls (EntryCall message) (sendToDlq P message.generationId attemptNo code text) := by
  have hfail (o : Operation) (h : FailCall message.generationId o) : EntryCall message o := by
    cases o with
    | query q => exact Or.inr h
    | _ => cases h
  exact safe_bind (only_utcNow entryCall_now) fun _ => safe_bind (only_utcNow entryCall_now)
    fun _ => safe_bind (safe_run_bind (only_command trivial) fun _ =>
      only_command (c := .xaddDlq _) rfl) fun _ =>
        safe_bind ((only_markFailed _ _ _ _ _ _).mono hfail) fun _ => safe_ret _

theorem only_reenqueue (entryId : Nat) :
    OnlyCalls (EntryCall message) (reenqueue entryId message) := by
  refine safe_bind (only_command trivial) fun r => ?_
  cases r with
  | error _ => exact safe_ret _
  | ok _ => exact safe_bind (only_command trivial) fun _ =>
      safe_bind (only_utcNow entryCall_now) fun now =>
        safe_bind (only_command (c := .xadd _) ⟨rfl, rfl⟩) fun _ => safe_ret _

/-- The task for a message makes its calls. -/
theorem only_workerTask (entryId : Nat) :
    OnlyCalls (EntryCall message) (workerTask P (workerSteps P url) entryId message) := by
  refine safe_bind ((only_processJob _).mono entryCall_of_jobCall) fun r => ?_
  cases r with
  | ok _ => exact only_ackEntry entryId
  | error e =>
    dsimp only
    unfold handleFailure
    split
    · exact safe_bind (only_sendToDlq _ _ _) fun _ => only_ackEntry entryId
    · split
      · exact safe_bind (only_sendToDlq _ _ _) fun _ => only_ackEntry entryId
      · exact only_reenqueue entryId

/-- The job that the task for a message names is that of the message. -/
theorem binds_of_entryCall {o : Operation} (h : EntryCall message o) :
    InsertsNoJob o ∧ ∀ g jobId, bindsJob o = some (g, jobId) →
      g = message.generationId ∧ message.jobId = some jobId := by
  cases o with
  | query q =>
    cases q with
    | onRow id st =>
      refine ⟨trivial, fun g jobId hb => False.elim ?_⟩
      have hst : ∀ written status, st ≠ .update (.generationJobStatus written status) := by
        rintro written status rfl
        obtain ((((⟨-, h⟩ | h) | h) | ⟨j, -, h | ⟨request, h, -⟩⟩) | h) := h
        · obtain h | h | h := h <;> exact h
        all_goals cases h
      cases st with
      | update u =>
        cases u with
        | generationJobStatus written status => exact hst written status rfl
        | _ => cases hb
      | _ => cases hb
    | insertSubmission row =>
      obtain ((((h | h) | h) | ⟨j, -, h | ⟨request, h, -⟩⟩) | h) := h <;> cases h
    | insertRegeneration parentId row =>
      obtain ((((h | h) | h) | ⟨j, -, h | ⟨request, h, -⟩⟩) | h) := h <;> cases h
    | _ => exact ⟨trivial, fun _ _ hb => by cases hb⟩
  | command command =>
    cases command with
    | xadd next =>
      refine ⟨trivial, fun g jobId hb => ?_⟩
      obtain ⟨j, hj, he⟩ := Option.map_eq_some_iff.1 hb
      obtain ⟨rfl, rfl⟩ := Prod.mk.inj he
      exact ⟨h.1, h.2.symm.trans hj⟩
    | _ => exact ⟨trivial, fun _ _ hb => by cases hb⟩
  | postJob request =>
    refine ⟨trivial, fun g jobId hb => ?_⟩
    obtain ⟨rfl, rfl⟩ := Prod.mk.inj (Option.some.inj hb)
    obtain ((((h | h) | h) | ⟨j, hj, h | ⟨request', h, hjob⟩⟩) | h) := h
    · cases h
    · cases h
    · cases h
    · cases h
    · obtain rfl := Operation.postJob.inj h
      rw [hjob]
      exact ⟨rfl, hj⟩
    · cases h
  | _ => exact ⟨trivial, fun _ _ hb => by cases hb⟩

/-- The task for a message follows the discipline, once it knows whose job the message is. -/
theorem follows_workerTask (entryId : Nat) {known : List (Uuid × Uuid)}
    (hknown : ∀ jobId, message.jobId = some jobId → (message.generationId, jobId) ∈ known) :
    (workerTask P (workerSteps P url) entryId message).wp (gatewayJobs A).spec (fun _ _ => True)
      { known } := by
  cases hjob : message.jobId with
  | none =>
    refine safe_unbound ((only_workerTask entryId).mono fun o h => ?_) _
    obtain ⟨hinsert, hbinds⟩ := binds_of_entryCall h
    refine ⟨hinsert, Option.eq_none_iff_forall_ne_some.2 fun pair hb => ?_⟩
    cases hjob.symm.trans (hbinds pair.1 pair.2 hb).2
  | some jobId =>
    refine knows_of_only ((only_workerTask entryId).mono fun o h => ?_) _ (hknown jobId hjob)
    obtain ⟨hinsert, hbinds⟩ := binds_of_entryCall h
    refine ⟨hinsert, fun pair hb => ?_⟩
    obtain ⟨hg, hj⟩ := hbinds pair.1 pair.2 hb
    exact Prod.ext hg (Option.some.inj (hj.symm.trans hjob))

end Worker

/-! ## Requests -/

section Requests

variable {g jobId : Uuid}

theorem unbound_updateRow (id : Uuid) {u : RowUpdate}
    (hu : Unbound (.query (.onRow id (.update u)))) (failure absent : String) :
    OnlyCalls Unbound (updateRow id u failure absent).run := by
  refine safe_run_bind (safe_run_mapErr (only_query hu)) fun r => ?_
  cases r with
  | some _ => exact safe_run_pure _
  | none => exact safe_run_throw _

/-- A request that has drawn a job id stores it, and knows whose it is from then on. -/
theorem known_updateRow {m : Lib.Names Uuid Uuid} (hspare : m.spare = some jobId)
    (status : GenerationStatus) (failure absent : String) :
    (updateRow g (.generationJobStatus (some jobId) status) failure absent).run.wp
      (gatewayJobs A).spec (fun _ m => (g, jobId) ∈ m.known) m := by
  refine (wp_run_bind _ _ _ _).2 ((wp_run_mapErr _ _ _ _).2 ((wp_query _ _).2
    ⟨⟨trivial, fun g' j' hb => ?_⟩, fun r m' hstep => ?_⟩))
  · obtain ⟨-, rfl⟩ := Prod.mk.inj (Option.some.inj hb)
    exact Or.inr hspare
  · have hin : (g, jobId) ∈ m'.known := known_of_spare hspare rfl hstep
    match r with
    | .error e => exact hin
    | .ok none => exact hin
    | .ok (some _) => exact hin

theorem knows_handOver : Knows A g jobId (handOver A g jobId) := by
  have hcalls : OnlyCalls (fun o => InsertsNoJob o ∧ ∀ pair, bindsJob o = some pair →
      pair = (g, jobId)) (handOver A g jobId) := by
    unfold handOver
    split
    · refine safe_bind (safe_run_bind (only_command ⟨trivial, fun _ hb => by cases hb⟩) fun _ =>
        safe_run_bind (safe_run_liftM (only_utcNow ⟨trivial, fun _ hb => by cases hb⟩)) fun now =>
          only_command ⟨trivial, fun pair hb => (Option.some.inj hb).symm⟩) fun _ => safe_ret _
    · exact safe_ret _
  exact knows_of_only hcalls

theorem unbound_loadSpec (id : Uuid) : OnlyCalls Unbound (loadSpec id).run := by
  refine safe_run_bind (safe_run_mapErr (only_query ⟨trivial, rfl⟩)) fun r => ?_
  cases r with
  | none => exact safe_run_throw _
  | some row =>
    dsimp only
    split
    · exact safe_run_throw _
    · exact safe_run_pure _

theorem knows_submitJob (url : String) : Knows A g jobId (submitJob url g jobId).run := by
  refine knows_run_bind (safe_unbound (unbound_loadSpec g)).safeFrom fun spec =>
    knows_run_bind (safeFrom_run_liftM fun m hin => (wp_postJob _ _).2
      ⟨⟨trivial, fun g' j' hb => ?_⟩, fun _ _ _ => trivial⟩) fun reply => ?_
  · obtain ⟨rfl, rfl⟩ := Prod.mk.inj (Option.some.inj hb)
    exact Or.inl hin
  · split
    · exact (safe_run_pure _).safeFrom
    · exact (safe_run_throw _).safeFrom

theorem spare_of_draw {m m' : Lib.Names Uuid Uuid}
    (hstep : (gatewayJobs A).spec.step m .newUuid jobId m') : m'.spare = some jobId := by
  obtain rfl : m' = (gatewayJobs A).after m .newUuid jobId := hstep
  rfl

theorem safe_startJob (g : Uuid) : Safe (gatewayJobs A).spec (startJob A g).run := by
  refine fun m => (wp_run_draw _ _).2 ⟨⟨trivial, fun _ _ hb => by cases hb⟩, fun jobId m hm => ?_⟩
  refine (wp_run_bind _ _ _ _).2 ((wp_run_mapErr _ _ _ _).2 (wp_mono (fun r m hin => ?_)
    (known_updateRow (spare_of_draw hm) _ _ _)))
  cases r with
  | error e => trivial
  | ok _ =>
    exact knows_run_bind (safeFrom_run_liftM knows_handOver)
      (fun _ => (safe_run_pure _).safeFrom) m hin

theorem safe_startRegeneration (g : Uuid) :
    Safe (gatewayJobs A).spec (startRegeneration A g) := by
  refine fun m => (wp_bind _ _ _ _).2 ((wp_newV4 _).2 ⟨⟨trivial, fun _ _ hb => by cases hb⟩,
    fun jobId m hm => ?_⟩)
  refine (wp_bind _ _ _ _).2 (wp_mono (fun _ m hin => ?_)
    (known_updateRow (spare_of_draw hm) _ _ _))
  exact knows_bind (knows_submitJob _) (fun _ => (safe_ret _).safeFrom) m hin

theorem unbound_createOrReuse (P : Platform) (input : CreateInput) :
    OnlyCalls Unbound (createOrReuse P input).run := by
  have hlookup : OnlyCalls Unbound (lookupDuplicate P input).run :=
    safe_run_mapErr (only_query ⟨trivial, rfl⟩)
  refine safe_run_bind hlookup fun r => ?_
  cases r with
  | some id => exact safe_run_pure _
  | none =>
    refine safe_run_bind (safe_run_liftM (only_newV4 ⟨trivial, rfl⟩)) fun id =>
      safe_run_bind (safe_run_resultOf (only_query ⟨rfl, rfl⟩)) fun r => ?_
    cases r with
    | ok _ => exact safe_run_pure _
    | error err =>
      dsimp only
      unfold recoverInsert
      split
      · refine safe_run_bind hlookup fun r => ?_
        cases r with
        | some id => exact safe_run_pure _
        | none => exact safe_run_throw _
      · exact safe_run_throw _

theorem unbound_createRegeneration (P : Platform) (parentId : Uuid) (prompt : String) :
    OnlyCalls Unbound (createRegeneration P parentId prompt).run := by
  refine safe_run_bind (safe_run_mapErr (only_query ⟨trivial, rfl⟩)) fun r => ?_
  cases r with
  | none => exact safe_run_throw _
  | some parent =>
    exact safe_run_bind (safe_run_liftM (only_newV4 ⟨trivial, rfl⟩)) fun id =>
      safe_run_bind (safe_run_mapErr (only_query ⟨rfl, rfl⟩)) fun _ => safe_run_pure _

theorem look_requireTeacher (p : Principal) : OnlyCalls LookCall (requireTeacher p).run := by
  unfold requireTeacher
  split
  · exact safe_run_throw _
  · exact safe_run_pure _

/-- The answer about a row that is found again. -/
theorem look_answer {id : Uuid} {teacherId : Int} {α : Type} {failure : String}
    {f : Option MediaGeneration → GatewayResult AppError α}
    (hf : ∀ row, OnlyCalls LookCall (f row).run) :
    OnlyCalls LookCall (internal failure (findByIdForTeacher id teacherId) >>= f).run :=
  safe_run_bind (safe_run_mapErr (look_findByIdForTeacher _)) hf

theorem safe_reprocess (g : Uuid) (prompt : String) (state : Json) (skipped : Bool)
    (message : String) :
    Safe (gatewayJobs A).spec (reprocess A g prompt state skipped message).run :=
  safe_run_bind (safe_run_mapErr (safe_unbound (unbound_updateRow _ ⟨trivial, rfl⟩ _ _))) fun _ =>
    safe_run_bind (safe_run_liftM (safe_look (only_utcNow trivial))) fun _ =>
      safe_run_bind (safe_run_mapErr (safe_unbound (unbound_updateRow _ ⟨trivial, rfl⟩ _ _)))
        fun _ => safe_run_bind (safe_startJob g) fun _ => safe_run_pure _

theorem safe_create (p : Principal) (payload : CreateRequest) :
    Safe (gatewayJobs A).spec (create A p payload).run := by
  refine safe_run_bind (safe_look (look_requireTeacher p)) fun _ =>
    safe_run_bind (safe_look (look_checkRateLimit _)) fun _ =>
      safe_run_bind (safe_run_mapErr (safe_unbound (unbound_createOrReuse _ _))) fun result => ?_
  split
  · exact safe_run_bind (safe_startJob _) fun _ => safe_run_pure _
  · refine safe_look (look_answer fun row => ?_)
    cases row with
    | none => exact safe_run_throw _
    | some row => exact safe_run_bind (safe_run_liftM (look_jobIdOr row)) fun _ => safe_run_pure _

theorem safe_regenerate (p : Principal) (id : Uuid) (prompt : String) :
    Safe (gatewayJobs A).spec (regenerate A p id prompt).run := by
  refine safe_run_bind (safe_look (look_requireTeacher p)) fun _ =>
    safe_run_bind (safe_look (look_checkRateLimit _)) fun _ =>
      safe_run_bind (safe_look (safe_run_mapErr (look_findByIdForTeacher _))) fun row => ?_
  cases row with
  | none => exact safe_run_throw _
  | some parent =>
    dsimp only
    split
    · exact safe_run_throw _
    · refine safe_run_bind (safe_run_mapErr (safe_unbound (unbound_createRegeneration _ _ _)))
        fun newId => safe_run_bind (safe_run_liftM (safe_startRegeneration newId)) fun _ =>
          safe_look (look_answer fun row => ?_)
      cases row with
      | none => exact safe_run_throw _
      | some _ => exact safe_run_pure _

theorem safe_confirm (p : Principal) (payload : ConfirmRequest) :
    Safe (gatewayJobs A).spec (confirm A p payload).run := by
  refine safe_run_bind (safe_look (look_requireTeacher p)) fun _ => ?_
  split
  · exact safe_run_throw _
  · refine safe_run_bind (safe_look (safe_run_mapErr (look_findByIdForTeacher _))) fun row => ?_
    cases row with
    | some g =>
      dsimp only
      split
      · exact safe_look (look_answerTerminal g)
      · exact safe_reprocess _ _ _ _ _
    | none =>
      exact safe_run_bind (safe_run_mapErr (safe_unbound (unbound_createOrReuse _ _))) fun result =>
        safe_reprocess _ _ _ _ _

theorem safe_skipClarification (p : Principal) (id : Uuid) :
    Safe (gatewayJobs A).spec (skipClarification A p id).run := by
  refine safe_run_bind (safe_look (look_requireTeacher p)) fun _ =>
    safe_run_bind (safe_look (safe_run_mapErr (look_findByIdForTeacher _))) fun row => ?_
  cases row with
  | none => exact safe_run_throw _
  | some g =>
    dsimp only
    split
    · exact safe_look (look_answerTerminal g)
    · exact safe_reprocess _ _ _ _ _

end Requests

/-! ## Callbacks, and the loops of the workers -/

section Loops

theorem binds_of_writeCall {jobId id : Uuid} (o : Operation) (h : WriteCall jobId id o) :
    InsertsNoJob o ∧ ∀ pair, bindsJob o = some pair → pair = (id, jobId) := by
  cases o with
  | query q =>
    cases q with
    | onRow id' st =>
      cases st with
      | update u =>
        obtain ⟨rfl, hwrites⟩ := h
        refine ⟨trivial, fun pair hb => ?_⟩
        cases u with
        | generationJobStatus written status =>
          cases written with
          | none => cases hb
          | some j =>
            obtain rfl := Option.some.inj (show some j = some jobId from hwrites)
            exact (Option.some.inj hb).symm
        | _ => cases hb
      | _ => cases h
    | _ => cases h
  | now => exact ⟨trivial, fun _ hb => by cases hb⟩
  | _ => cases h

/-- A callback finds the row of its job, and then knows whose job it is. -/
theorem safe_webhookHandler (payload : MediaWebhookPayload) :
    Safe (gatewayJobs A).spec (webhookHandler A payload).run := by
  refine fun m => (wp_run_bind _ _ _ _).2 ((wp_run_mapErr _ _ _ _).2 ((wp_run_mapErr _ _ _ _).2
    ((wp_query _ _).2 ⟨⟨trivial, fun _ _ hb => by cases hb⟩, fun r m' hstep => ?_⟩)))
  match r with
  | .error e => trivial
  | .ok none => trivial
  | .ok (some row) =>
    have hin : (row.id, payload.jobId) ∈ m'.known := by
      subst hstep
      exact List.mem_cons_self
    suffices hwrites : OnlyCalls (WriteCall payload.jobId row.id) _ from
      knows_of_only (hwrites.mono binds_of_writeCall) m' hin
    dsimp only
    split_ifs
    · exact safe_run_pure _
    · exact safe_run_bind (only_webhookCompleted _ _) fun _ => safe_run_pure _
    · exact safe_run_bind (only_webhookFailed _ _) fun _ => safe_run_pure _
    · exact safe_run_throw _

/-- A command that adds nothing. -/
def LoopCall : Operation → Prop
  | .command (.xadd _) => False
  | .command (.xaddDlq _) => False
  | .command _ => True
  | _ => False

theorem unbound_of_loop (o : Operation) (h : LoopCall o) : Unbound o := by
  cases o with
  | command command =>
    cases command with
    | xadd message => cases h
    | _ => exact ⟨trivial, rfl⟩
  | _ => cases h

theorem loop_createConsumerGroup : OnlyCalls LoopCall createConsumerGroup.run := by
  refine safe_run_bind (only_command trivial) fun _ =>
    safe_run_bind (safe_run_resultOf (only_command trivial)) fun r => ?_
  cases r with
  | ok _ => exact safe_run_pure _
  | error _ =>
    dsimp only
    split
    · exact safe_run_pure _
    · exact safe_run_throw _

theorem loop_claimPending (consumer : String) : OnlyCalls LoopCall (claimPending consumer).run := by
  have hall (ids : List Nat) : OnlyCalls LoopCall (claimAll consumer ids) := by
    induction ids with
    | nil => exact safe_ret _
    | cons entryId rest ih => exact safe_bind (only_command trivial) fun _ => ih
  exact safe_run_bind (only_command trivial) fun _ =>
    safe_run_bind (only_command trivial) fun ids => safe_run_liftM (hall ids)

end Loops

/-! ## The result -/

/-- A task that is no run starts with no knowledge. -/
theorem follows_spawned {l : Label} {q : Gateway Unit} (h : Spawned A l q)
    (hkind : ∀ message, l.kind ≠ .worker message) :
    q.wp (gatewayJobs A).spec (fun _ _ => True) {} := by
  have respond {α : Type} {q : GatewayResult AppError α}
      (hq : Safe (gatewayJobs A).spec q.run) :
      (respondWith q).wp (gatewayJobs A).spec (fun _ _ => True) {} :=
    safe_bind hq (fun _ => safe_ret _) _
  cases h with
  | create principal payload => exact respond (safe_create principal payload)
  | regenerate principal id prompt => exact respond (safe_regenerate principal id prompt)
  | confirm principal payload => exact respond (safe_confirm principal payload)
  | skipClarification principal id => exact respond (safe_skipClarification principal id)
  | bootWorker =>
    exact safe_unbound
      (safe_bind (loop_createConsumerGroup.mono unbound_of_loop) fun _ => safe_ret _) _
  | claimPending consumer =>
    exact safe_unbound
      (safe_bind ((loop_claimPending consumer).mono unbound_of_loop) fun _ => safe_ret _) _
  | webhook payload => exact respond (safe_webhookHandler payload)
  | entry e => exact absurd rfl (hkind e.fields)

/-- A run starts for a message of the stream. -/
theorem entry_of_arrive {w w' : World} {arr : Arrival} {spawned : List (Label × Gateway Unit)}
    (harr : arrive A w arr = some (w', spawned)) {l : Label} {q : Gateway Unit}
    (hlq : (l, q) ∈ spawned) {message : JobMessage} (hkind : l.kind = .worker message) :
    ∃ e ∈ w.redis.jobs.entries, e.fields = message := by
  cases arr with
  | readMessages consumer replyLost =>
    obtain ⟨⟨entries, jobs⟩, hread, he⟩ := Option.map_eq_some_iff.1 harr
    obtain ⟨-, rfl⟩ := Prod.mk.inj he
    cases replyLost with
    | true => cases hlq
    | false =>
      obtain ⟨e, hmem, he⟩ := List.mem_map.1 hlq
      obtain ⟨rfl, -⟩ := Prod.mk.inj he
      rw [Stream.eq_take_of_readGroup hread] at hmem
      exact ⟨e, Stream.unread_subset (List.mem_of_mem_take hmem), Kind.worker.inj hkind⟩
  | callback payload =>
    obtain ⟨renderer, -, he⟩ := Option.map_eq_some_iff.1 harr
    obtain ⟨-, rfl⟩ := Prod.mk.inj he
    obtain ⟨rfl, -⟩ := Prod.mk.inj (List.mem_singleton.1 hlq)
    cases hkind
  | duplicateCallback n =>
    obtain ⟨payload, -, he⟩ := Option.map_eq_some_iff.1 harr
    obtain ⟨-, rfl⟩ := Prod.mk.inj he
    obtain ⟨rfl, -⟩ := Prod.mk.inj (List.mem_singleton.1 hlq)
    cases hkind
  | _ =>
    obtain ⟨-, rfl⟩ := Prod.mk.inj (Option.some.inj harr)
    obtain ⟨rfl, -⟩ := Prod.mk.inj (List.mem_singleton.1 hlq)
    cases hkind

/-- Every task starts with names that are written down. -/
theorem starts_named {w w' : World} {arr : Arrival} {spawned : List (Label × Gateway Unit)}
    (harr : arrive A w arr = some (w', spawned)) {l : Label} {q : Gateway Unit}
    (hlq : (l, q) ∈ spawned) : ∃ known, (∀ g jobId, (g, jobId) ∈ known → NamesJob w g jobId) ∧
      q.wp (gatewayJobs A).spec (fun _ _ => True) { known } := by
  have hspawned := spawned_of_arrive harr hlq
  by_cases hkind : ∃ message, l.kind = .worker message
  · obtain ⟨message, hkind⟩ := hkind
    obtain ⟨e, hmem, rfl⟩ := entry_of_arrive harr hlq hkind
    refine ⟨(e.fields.jobId.map fun jobId => (e.fields.generationId, jobId)).toList,
      fun g jobId hin => ?_, ?_⟩
    · obtain ⟨jobId', hjob, heq⟩ := Option.map_eq_some_iff.1 (Option.mem_toList.1 hin)
      obtain ⟨rfl, rfl⟩ := Prod.mk.inj heq
      exact .message e hmem rfl hjob
    · cases hspawned with
      | entry e' =>
        rw [← Kind.worker.inj hkind]
        refine follows_workerTask _ fun jobId hjob => ?_
        rw [hjob]
        exact List.mem_singleton_self _
      | _ => cases hkind
  · exact ⟨[], fun _ _ hin => absurd hin List.not_mem_nil,
      follows_spawned hspawned fun message hworker => hkind ⟨message, hworker⟩⟩

/-- Nothing is named before the first request. -/
theorem not_namesJob_of_initial {w : World} (hw : Initial w) (g jobId : Uuid) :
    ¬ NamesJob w g jobId := by
  intro h
  cases h with
  | row row hmem => rw [hw.rows] at hmem; cases hmem
  | message e hmem => rw [hw.redis] at hmem; cases hmem
  | accepted hmem => rw [hw.renderer] at hmem; cases hmem
  | owed hmem => rw [hw.renderer] at hmem; cases hmem
  | reported payload hmem => rw [hw.renderer] at hmem; cases hmem

/-- In any run, a job id names one generation: the rows, the messages of the stream, the jobs of
the renderer and its callbacks agree on it. -/
theorem job_owner_unique {ok : (system A).State → (system A).Action → Prop}
    {s : (system A).State} (hs : Reachable A ok s) {g g' jobId : Uuid}
    (hg : NamesJob s.world g jobId) (hg' : NamesJob s.world g' jobId) : g = g' := by
  obtain ⟨w, hw, hreach⟩ := hs
  exact lawful.owner_unique (fun _ _ _ _ harr _ _ => starts_named harr)
    (not_namesJob_of_initial hw) hreach hg hg'

/-- A request is stored and queued: its row and its message carry one job. -/
theorem job_owner_unique_sample : ∃ (s : (system sampleGateway).State) (row : MediaGeneration)
    (e : StreamEntry JobMessage), row ∈ s.world.db.rows ∧ e ∈ s.world.redis.jobs.entries ∧
      row.generationJobId = some ⟨1⟩ ∧ e.fields.jobId = some ⟨1⟩ ∧
      row.id = e.fields.generationId := by
  have hplay : ((Pool.play (fun _ _ => True) ((system sampleGateway).start sampleWorld)
      requestRead).map fun s => (s.world.db.rows.head?.bind MediaGeneration.generationJobId,
        s.world.redis.jobs.entries.head?.bind fun e => e.fields.jobId)) =
      some (some ⟨1⟩, some ⟨1⟩) := by rfl
  obtain ⟨s, hs, hnames⟩ := Pool.exists_of_play hplay
  obtain ⟨hrow, hentry⟩ := Prod.mk.inj hnames
  obtain ⟨row, hrow, hjob⟩ := Option.bind_eq_some_iff.1 hrow
  obtain ⟨e, he, hmessage⟩ := Option.bind_eq_some_iff.1 hentry
  have hmem := List.mem_of_head? hrow
  have hmem' := List.mem_of_head? he
  exact ⟨s, row, e, hmem, hmem', hjob, hmessage,
    job_owner_unique ⟨_, initial_sampleWorld, hs⟩ (.row row hmem rfl hjob)
      (.message e hmem' rfl hmessage)⟩

end KlassGateway.JobOwners
