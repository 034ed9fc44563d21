import KlassGateway.Guarantees.RunsPerJob
/-!
# Jobs that are submitted again

`ensure_generated` is the one phase without a checkpoint: a run that gets there submits its job,
whatever the runs before it have recorded.  What stands between a recorded job and another
submission is only that no run for the job comes later.

* `recordSpec` follows a run: whether its job was accepted, and whether it has marked the row failed.
* `accepted_of_record`: a run that marks the row `processing`, and a callback, are about a job that
  the renderer has accepted.
* `OutOfUse`: what a run that has marked the row failed leaves behind.
* `not_submitted_again`: a job that was accepted or recorded is not submitted again, as long as no
  run puts back the message of an accepted job.
* `submitted_after_record`: otherwise it may.
-/

namespace KlassGateway

open Lib Lib.Prog Db Orchestrator Queue MediaGen Api

variable {A : AppState}

/-! ## What a run records -/

/-- The task for an entry, with the job of its message: whether the renderer has accepted it from
this task, and whether the task has marked the row failed. -/
inductive RunMode where
  | request
  | run (jobId : Option Uuid) (accepted failed : Bool)

namespace RunMode

instance : Inhabited RunMode := ⟨request⟩

/-- The mode after a call. -/
def after (m : RunMode) (o : Operation) (r : o.Resp) : RunMode :=
  match m, o, r with
  | run jobId accepted failed, .postJob _, reply => run jobId (accepted || reply.accepts) failed
  | run jobId accepted _, .query (.onRow _ (.markFailed _ _ _ _ _ _)), _ => run jobId accepted true
  | m, _, _ => m

end RunMode

/-- A run submits its own job.  It marks the row `processing` only after that was accepted, and
after it has marked the row failed it hands over nothing. -/
def recordSpec : OpSpec effects RunMode where
  pre m o := match m, o with
    | .run jobId accepted _, .query (.onRow _ (.update .markProcessing)) =>
      jobId.isSome → accepted = true
    | .run jobId _ failed, .postJob request => failed = false ∧ jobId = some request.job.jobId
    | .run _ _ failed, .command (.xadd _) => failed = false
    | _, _ => True
  step m o r m' := m' = m.after o r

/-- A call that neither hands a job over nor records one. -/
def PlainCall : Operation → Prop
  | .command (.xadd _) => False
  | .postJob _ => False
  | .query (.onRow _ (.update .markProcessing)) => False
  | .query (.onRow _ (.markFailed _ _ _ _ _ _)) => False
  | _ => True

/-- A statement that records nothing. -/
def PlainStatement : RowStatement → Prop
  | .update .markProcessing => False
  | .markFailed _ _ _ _ _ _ => False
  | _ => True

section Calls

variable {jobId : Option Uuid} {accepted failed : Bool} {o : Operation} {T : RowStatement → Prop}
  {g : Uuid}

theorem record_of_plain (ho : PlainCall o) {m : RunMode} :
    recordSpec.pre m o ∧ ∀ r m', recordSpec.step m o r m' → m' = m := by
  cases m with
  | request => exact ⟨trivial, fun _ _ h => h⟩
  | run jobId accepted failed =>
    cases o with
    | postJob request => cases ho
    | command c =>
      cases c with
      | xadd message => cases ho
      | _ => exact ⟨trivial, fun _ _ h => h⟩
    | query q =>
      cases q with
      | onRow id st =>
        cases st with
        | markFailed => cases ho
        | update u =>
          cases u with
          | markProcessing => cases ho
          | _ => exact ⟨trivial, fun _ _ h => h⟩
        | _ => exact ⟨trivial, fun _ _ h => h⟩
      | _ => exact ⟨trivial, fun _ _ h => h⟩
    | _ => exact ⟨trivial, fun _ _ h => h⟩

theorem plain_of_rowCall (hT : ∀ st, T st → PlainStatement st) (h : RowCall T g o) :
    PlainCall o := by
  cases o with
  | query q =>
    cases q with
    | onRow id st =>
      have hst := hT st h.2
      cases st with
      | markFailed => exact hst.elim
      | update u =>
        cases u with
        | markProcessing => exact hst.elim
        | _ => trivial
      | _ => trivial
    | _ => trivial
  | command c => cases h
  | postJob request => cases h
  | _ => trivial

theorem plain_of_stepCall (hT : ∀ st, T st → PlainStatement st) (h : StepCall T g o) :
    PlainCall o := by
  obtain h | h := h
  · exact plain_of_rowCall hT h
  · cases o with
    | query q =>
      cases q with
      | onRow id st => cases h
      | _ => trivial
    | command c => cases h
    | postJob request => cases h
    | _ => trivial

/-- A run whose job was accepted, or that has none, may mark its row. -/
theorem record_of_deliverCall (hmark : jobId.isSome → accepted = true)
    (h : DeliverCall RunStatement g o) :
    recordSpec.pre (.run jobId accepted failed) o ∧ ∀ r m,
      recordSpec.step (.run jobId accepted failed) o r m → m = .run jobId accepted failed := by
  obtain (h | h) | h := h
  · cases o with
    | query q =>
      cases q with
      | onRow id st =>
        obtain ⟨-, hst⟩ := h
        cases st with
        | markFailed => obtain hst | hst | hst := hst <;> cases hst
        | update u =>
          cases u with
          | markProcessing => exact ⟨hmark, fun _ _ h => h⟩
          | _ => exact ⟨trivial, fun _ _ h => h⟩
        | _ => exact ⟨trivial, fun _ _ h => h⟩
      | _ => exact ⟨trivial, fun _ _ h => h⟩
    | command c => cases h
    | postJob request => cases h
    | _ => exact ⟨trivial, fun _ _ h => h⟩
  · exact record_of_plain (plain_of_stepCall (T := fun _ => False) (g := g) (fun _ h => h.elim) (.inr h))
  · cases o with
    | newUuid => exact ⟨trivial, fun _ _ h => h⟩
    | span step => exact ⟨trivial, fun _ _ h => h⟩
    | _ => cases h

/-- A run that has not marked its row failed may use the queue. -/
theorem record_of_queueCall (h : QueueCall o) :
    recordSpec.pre (.run jobId accepted false) o ∧ ∀ r m,
      recordSpec.step (.run jobId accepted false) o r m → m = .run jobId accepted false := by
  cases o with
  | command c =>
    cases c with
    | xadd message => exact ⟨rfl, fun _ _ h => h⟩
    | _ => exact ⟨trivial, fun _ _ h => h⟩
  | now => exact ⟨trivial, fun _ _ h => h⟩
  | _ => cases h

/-- What a run leaves that has ended. -/
def Ended (jobId : Option Uuid) (m : RunMode) : Prop :=
  ∃ accepted failed, m = .run jobId accepted failed

/-- A run that moves its message to the dead letters hands over nothing. -/
theorem record_of_tailCall {m : RunMode} (hm : Ended jobId m) (h : TailCall g o) (hq : QuietCall o) :
    recordSpec.pre m o ∧ ∀ r m', recordSpec.step m o r m' → Ended jobId m' := by
  obtain ⟨accepted, failed, rfl⟩ := hm
  have hkeep (hplain : PlainCall o) : recordSpec.pre (.run jobId accepted failed) o ∧ ∀ r m',
      recordSpec.step (.run jobId accepted failed) o r m' → Ended jobId m' :=
    ⟨(record_of_plain hplain).1, fun r m' hstep =>
      ⟨accepted, failed, (record_of_plain hplain).2 r m' hstep⟩⟩
  obtain h | h := h
  · cases o with
    | command c =>
      cases c with
      | xadd message => exact hq.elim
      | _ => exact hkeep trivial
    | now => exact hkeep trivial
    | _ => cases h
  · cases o with
    | query q =>
      cases q with
      | onRow id st =>
        cases st with
        | markFailed => exact ⟨trivial, fun _ _ hstep => ⟨accepted, true, hstep⟩⟩
        | _ => cases h
      | _ => cases h
    | _ => cases h

end Calls

/-! ## Every run follows it -/

section Runs

variable {P : Platform} {url : String} {e : StreamEntry JobMessage} {g : Uuid}
  {jobId : Option Uuid} {accepted failed : Bool}

theorem wp_plain {α : Type} {p : Gateway α} (hp : OnlyCalls PlainCall p) {m : RunMode} :
    p.wp recordSpec (fun _ m' => m' = m) m :=
  hp.wp fun _ ho => record_of_plain ho

/-- A plain step, and what comes after it. -/
theorem plain_bind {α β ε : Type} {p : GatewayResult ε α} {f : α → GatewayResult ε β}
    {Q : Except ε β → RunMode → Prop} {m : RunMode} (hp : OnlyCalls PlainCall p.run)
    (herror : ∀ err, Q (.error err) m) (hf : ∀ a, (f a).run.wp recordSpec Q m) :
    (p >>= f).run.wp recordSpec Q m := by
  refine (wp_run_bind _ _ _ _).2 (wp_mono (fun r m' hm => ?_) (wp_plain hp))
  subst hm
  cases r with
  | ok a => exact hf a
  | error err => exact herror err

/-- The span of a phase is plain. -/
theorem wp_record_timedStep {step : StepName} {body : GatewayResult WorkflowError Unit}
    {Q : Except WorkflowError Unit → RunMode → Prop} {m : RunMode}
    (h : body.run.wp recordSpec Q m) : (timedStep step body).run.wp recordSpec Q m := by
  have hspan (step : Option StepName) : OnlyCalls PlainCall (span step) :=
    only_perform (I := effects) trivial
  refine (wp_bind _ _ _ _).2 (wp_mono (fun _ m' hm => ?_) (wp_plain (hspan _)))
  subst hm
  refine (wp_bind _ _ _ _).2 (wp_mono (fun r m hr => ?_) h)
  refine (wp_bind _ _ _ _).2 (wp_mono (fun _ m' hm => ?_) (wp_plain (hspan _)))
  subst hm
  exact hr

theorem plain_ensureClassified {attempt : Int} {jobContext : Option Json} :
    OnlyCalls PlainCall (ensureClassified P (workerSteps P url) g attempt jobContext).run := by
  have htransition (st : RowStatement) (h : RunTransition st) : PlainStatement st := by
    cases st with
    | transition => trivial
    | _ => cases h
  have hclassify (st : RowStatement) (h : ClassifyStatement st) : PlainStatement st := by
    cases st with
    | update u =>
      cases u with
      | markProcessing => cases h
      | _ => trivial
    | _ => cases h
  exact safe_run_bind (only_beginInterpreting.mono fun _ => plain_of_rowCall htransition) fun _ =>
    safe_run_bind (only_classifyOnce.mono fun _ => plain_of_stepCall hclassify) fun _ =>
      only_finishClassified.mono fun _ => plain_of_rowCall htransition

theorem plain_beginGenerating {attempt : Int} {jobContext : Option Json} :
    OnlyCalls PlainCall (beginGenerating g jobId attempt jobContext).run := by
  have hrow (o : Operation) (h : RowCall PlainStatement g o) : PlainCall o :=
    plain_of_rowCall (fun _ h => h) h
  refine safe_run_bind ((only_statusBefore _).mono hrow) fun b => ?_
  split
  · exact safe_run_bind (only_selectRow.mono hrow) fun _ =>
      (only_requestTransition trivial).mono hrow
  · exact safe_run_pure _

theorem plain_loadSpec : OnlyCalls PlainCall (loadSpec g).run := by
  refine safe_run_bind (safe_run_mapErr (only_query trivial)) fun r => ?_
  cases r with
  | none => exact safe_run_throw _
  | some row =>
    dsimp only
    split
    · exact safe_run_throw _
    · exact safe_run_pure _

/-- What the second phase of a run leaves: where it succeeds, the job was accepted. -/
def Submitted (jobId : Option Uuid) (r : Except WorkflowError Unit) (m : RunMode) : Prop :=
  ∃ accepted, m = .run jobId accepted false ∧ (r.isOk → jobId.isSome → accepted = true)

theorem accepts_of_readReply {reply : RendererReply} (h : readReply reply = .ok ()) :
    reply.accepts = true := by
  cases reply with
  | unreachable message arrived => cases h
  | replied status body =>
    cases body with
    | error message => cases h
    | ok body =>
      simp only [readReply] at h
      split at h
      · next hsuccess => exact hsuccess
      · cases h

theorem record_submitGeneration :
    (submitGeneration (workerSteps P url) g jobId).run.wp recordSpec (Submitted jobId)
      (.run jobId false false) := by
  cases jobId with
  | none => exact ⟨false, rfl, fun _ h => by cases h⟩
  | some jobId =>
    have herror (b : Bool) (err : WorkflowError) :
        Submitted (some jobId) (.error err) (.run (some jobId) b false) :=
      ⟨b, rfl, fun h => by cases h⟩
    refine (wp_run_bind _ _ _ _).2 ((wp_run_mapErr _ _ _ _).2 ?_)
    refine plain_bind plain_loadSpec (fun _ => herror false _) fun spec => ?_
    have hmark (r : Except WorkflowError Unit) :
        Submitted (some jobId) r (.run (some jobId) true false) := ⟨true, rfl, fun _ _ => rfl⟩
    refine (wp_run_bind _ _ _ _).2 ((wp_run_liftM _ _ _).2
      ((wp_postJob _ _).2 ⟨⟨rfl, rfl⟩, fun reply m hm => ?_⟩))
    have hm : m = .run (some jobId) reply.accepts false := hm
    subst hm
    dsimp only
    split
    · next hread =>
      rw [accepts_of_readReply hread]
      refine (wp_run_bind _ _ _ _).2 ((wp_run_mapErr _ _ _ _).2 ((wp_query _ _).2
        ⟨fun _ => rfl, fun r m hm => ?_⟩))
      obtain rfl := hm
      cases r with
      | ok _ => exact hmark _
      | error err => exact hmark _
    · exact herror _ _

theorem record_process (attempt : Option Int) (jobContext : Option Json) :
    (process P (workerSteps P url) g jobId attempt jobContext).run.wp recordSpec
      (fun _ m => ∃ accepted, m = .run jobId accepted false) (.run jobId false false) := by
  have hrow (o : Operation) (h : RowCall PlainStatement g o) : PlainCall o :=
    plain_of_rowCall (fun _ h => h) h
  refine plain_bind (safe_run_mapErr ((only_initializeAudit trivial).mono hrow))
    (fun _ => ⟨false, rfl⟩) fun _ => plain_bind (only_getStatus.mono hrow) (fun _ => ⟨false, rfl⟩)
      fun s => ?_
  split
  · exact ⟨false, rfl⟩
  · refine (wp_run_bind _ _ _ _).2 (wp_record_timedStep
      (wp_mono (fun r m hm => ?_) (wp_plain plain_ensureClassified)))
    subst hm
    cases r with
    | error err => exact ⟨false, rfl⟩
    | ok _ =>
      refine (wp_run_bind _ _ _ _).2 (wp_record_timedStep (wp_mono (fun r m hm => ?_)
        (plain_bind plain_beginGenerating (fun _ => ⟨false, rfl, fun h => by cases h⟩)
          fun _ => record_submitGeneration)))
      obtain ⟨accepted, rfl, haccepted⟩ := hm
      cases r with
      | error err => exact ⟨accepted, rfl⟩
      | ok _ =>
        have hdeliver : OnlyCalls (DeliverCall RunStatement g)
            (deliver (workerSteps P url) g (attempt.getD 1) jobContext).run :=
          safe_deliver (fun o h _ => DeliverCall.mono
              (fun s h => .inl (UncomposedStatement.deliver s h)) o h)
            ((only_composeStep (T := RunStatement) fun _ => .inl trivial).mono fun _ => .inl)
        exact wp_mono (fun _ m hm => ⟨accepted, hm⟩)
          (hdeliver.wp fun o ho => record_of_deliverCall (haccepted rfl) ho)

theorem record_handleFailure (text : String) :
    (handleFailure P e.id e.fields text).wp recordSpec (fun _ _ => True)
      (.run e.fields.jobId accepted false) := by
  have hdead (attemptNo : Int) (code : String) : (sendToDlq P e.fields.generationId attemptNo code
      text >>= fun _ => ackEntry e.id).wp recordSpec (fun _ _ => True)
        (.run e.fields.jobId accepted false) := by
    have htail : OnlyCalls (TailCall e.fields.generationId) (sendToDlq P e.fields.generationId
        attemptNo code text >>= fun _ => ackEntry e.id) :=
      safe_bind (only_sendToDlq _ _ _) fun _ => (only_ackEntry _).mono fun _ => .inl
    have hquiet : OnlyCalls QuietCall (sendToDlq P e.fields.generationId attemptNo code text >>=
        fun _ => ackEntry e.id) := safe_bind (quiet_sendToDlq _ _ _) fun _ => quiet_ackEntry _
    exact wp_mono (fun _ _ _ => trivial) ((htail.and hquiet).wp_pre ⟨accepted, false, rfl⟩
      fun m o hm ho => record_of_tailCall hm ho.1 ho.2)
  unfold handleFailure
  split
  · exact hdead _ _
  · split
    · exact hdead _ _
    · exact wp_mono (fun _ _ _ => trivial)
        ((only_reenqueue _ _).wp fun _ ho => record_of_queueCall ho)

/-- The task for an entry, from its start. -/
theorem record_entry : (entryTask A e).2.wp recordSpec (fun _ _ => True)
    (.run e.fields.jobId false false) := by
  refine (wp_bind _ _ _ _).2 (wp_mono (fun r m hm => ?_) (record_process _ _))
  obtain ⟨accepted, rfl⟩ := hm
  cases r with
  | ok _ =>
    exact wp_mono (fun _ _ _ => trivial)
      ((only_ackEntry _).wp fun _ ho => record_of_queueCall ho)
  | error err => exact record_handleFailure _

/-- Nothing is asked of a request. -/
theorem record_request (p : Gateway Unit) : p.wp recordSpec (fun _ _ => True) .request :=
  wp_mono (fun _ _ _ => trivial) ((only_true p).wp fun _ _ => ⟨trivial, fun _ _ h => h⟩)

end Runs

/-! ## Recorded jobs are accepted jobs -/

/-- What the renderer has reported, and what is known about the tasks. -/
structure RecordsOk (w : World) (v : Nat → Option (Label × RunMode)) : Prop where
  owed : ∀ job ∈ w.renderer.owed, job ∈ w.renderer.accepted
  reported : ∀ payload ∈ w.renderer.reported, payload.jobId ∈ acceptedJobs w
  webhook : ∀ i l m payload, v i = some (l, m) → l.kind = .webhook payload →
    payload.jobId ∈ acceptedJobs w
  run : ∀ i l m message, v i = some (l, m) → l.kind = .worker message →
    ∃ accepted failed, m = .run message.jobId accepted failed ∧
      (accepted = true → ∀ j, message.jobId = some j → j ∈ acceptedJobs w)

/-- The discipline. -/
def records (A : AppState) : Discipline (system A) RunMode where
  spec := recordSpec
  inv := RecordsOk

section Records

variable {w w' : World} {v : Nat → Option (Label × RunMode)} {i : Nat} {l : Label} {m : RunMode}
  {j : Uuid}

/-- What a call leaves accepted. -/
theorem accepted_of_exec {o : Operation} (c : Choice) (h : j ∈ acceptedJobs w) :
    j ∈ acceptedJobs (o.exec w c).2 := by
  unfold acceptedJobs at h ⊢
  obtain hsame | ⟨request, -, hsubmit⟩ := o.exec_renderer w c
  · rwa [hsame]
  · rw [hsubmit, Renderer.submit]
    split
    · exact List.mem_cons_of_mem _ h
    · exact h

/-- What an arrival leaves accepted. -/
theorem accepted_of_arrive {arr : Arrival} {spawned : List (Label × Gateway Unit)}
    (h : arrive A w arr = some (w', spawned)) : w'.renderer.accepted = w.renderer.accepted := by
  obtain ⟨_, _, _, _, -, rfl, -⟩ | ⟨-, haccepted, -⟩ := arrive_jobs h
  · rfl
  · exact haccepted

/-- A job that was accepted stays accepted. -/
theorem accepted_of_reach {ok : (system A).State → (system A).Action → Prop}
    {s s' : (system A).State} (h : Pool.Reach ok s s') (hj : j ∈ acceptedJobs s.world) :
    j ∈ acceptedJobs s'.world := by
  have hkeep (t : (system A).State) (a : (system A).Action) (t' : (system A).State) (_ : ok t a)
      (ht : j ∈ acceptedJobs t.world) (he : Pool.step t a = some t') :
      j ∈ acceptedJobs t'.world := by
    obtain ⟨arr, w, spawned, rfl, harr, rfl⟩ | ⟨i, c, l, o, k, rfl, hti, rfl⟩ |
      ⟨i, u, rfl, -, rfl⟩ := Pool.step_cases he
    · unfold acceptedJobs at ht ⊢
      dsimp only
      rwa [accepted_of_arrive harr]
    · exact accepted_of_exec c ht
    · exact ht
  exact h.invariant hkeep hj

/-- The renderer after a call, and a job that the call has got accepted. -/
theorem RecordsOk.exec_renderer (h : RecordsOk w v) (o : Operation) (c : Choice) :
    (∀ job ∈ (o.exec w c).2.renderer.owed, job ∈ (o.exec w c).2.renderer.accepted) ∧
      (o.exec w c).2.renderer.reported = w.renderer.reported := by
  obtain hsame | ⟨request, -, hsubmit⟩ := o.exec_renderer w c
  · rw [hsame]
    exact ⟨h.owed, rfl⟩
  · rw [hsubmit, Renderer.submit]
    split
    · refine ⟨fun job hjob => ?_, rfl⟩
      rcases List.mem_cons.1 hjob with rfl | hold
      · exact List.mem_cons_self
      · exact List.mem_cons_of_mem _ (h.owed job hold)
    · exact ⟨h.owed, rfl⟩

/-- The mode of a run after one of its calls. -/
theorem run_after {jobId : Option Uuid} {accepted failed : Bool} {o : Operation} (c : Choice)
    (hpre : recordSpec.pre (.run jobId accepted failed) o)
    (haccepted : accepted = true → ∀ j, jobId = some j → j ∈ acceptedJobs w) :
    ∃ accepted' failed', RunMode.after (.run jobId accepted failed) o (o.exec w c).1 =
      .run jobId accepted' failed' ∧
      (accepted' = true → ∀ j, jobId = some j → j ∈ acceptedJobs (o.exec w c).2) := by
  have hold (h : accepted = true) (j : Uuid) (hj : jobId = some j) :
      j ∈ acceptedJobs (o.exec w c).2 := accepted_of_exec c (haccepted h j hj)
  cases o with
  | postJob request =>
    obtain ⟨-, rfl⟩ := hpre
    refine ⟨accepted || c.renderer.accepts, failed, rfl, fun h j hj => ?_⟩
    cases haccepts : c.renderer.accepts with
    | false =>
      rw [haccepts, Bool.or_false] at h
      exact hold h j hj
    | true =>
      obtain rfl := Option.some.inj hj
      simp [acceptedJobs, Operation.exec, Renderer.submit, haccepts]
  | query q =>
    cases q with
    | onRow id st =>
      cases st with
      | markFailed => exact ⟨accepted, true, rfl, hold⟩
      | _ => exact ⟨accepted, failed, rfl, hold⟩
    | _ => exact ⟨accepted, failed, rfl, hold⟩
  | _ => exact ⟨accepted, failed, rfl, hold⟩

/-- A call keeps the discipline. -/
theorem RecordsOk.act (h : RecordsOk w v) (hi : v i = some (l, m)) {o : Operation}
    (hpre : recordSpec.pre m o) (c : Choice) :
    RecordsOk (o.exec w c).2
      (Function.update v i (some (l.after o, m.after o (o.exec w c).1))) := by
  obtain ⟨howed, hreported⟩ := h.exec_renderer o c
  refine ⟨howed, fun payload hpayload => ?_, fun i' l' m' payload hi' hkind => ?_,
    fun i' l' m' message hi' hkind => ?_⟩
  · rw [hreported] at hpayload
    exact accepted_of_exec c (h.reported payload hpayload)
  · by_cases hii : i' = i
    · subst hii
      rw [Function.update_self] at hi'
      obtain ⟨rfl, -⟩ := Prod.mk.inj (Option.some.inj hi')
      rw [kind_after] at hkind
      exact accepted_of_exec c (h.webhook i' l m payload hi hkind)
    · rw [Function.update_of_ne hii] at hi'
      exact accepted_of_exec c (h.webhook i' l' m' payload hi' hkind)
  · by_cases hii : i' = i
    · subst hii
      rw [Function.update_self] at hi'
      obtain ⟨rfl, rfl⟩ := Prod.mk.inj (Option.some.inj hi')
      rw [kind_after] at hkind
      obtain ⟨accepted, failed, rfl, haccepted⟩ := h.run i' l m message hi hkind
      exact run_after c hpre haccepted
    · rw [Function.update_of_ne hii] at hi'
      obtain ⟨accepted, failed, rfl, haccepted⟩ := h.run i' l' m' message hi' hkind
      exact ⟨accepted, failed, rfl, fun hyes j hj => accepted_of_exec c (haccepted hyes j hj)⟩

/-- A task that is started: a request, a callback of an accepted job, or the run for an entry. -/
theorem spawned_ok (h : RecordsOk w v) {arr : Arrival} {spawned : List (Label × Gateway Unit)}
    (harr : arrive A w arr = some (w', spawned)) :
    (∀ job ∈ w'.renderer.owed, job ∈ w.renderer.accepted) ∧
    (∀ payload ∈ w'.renderer.reported, payload.jobId ∈ acceptedJobs w) ∧
    ∀ l p, (l, p) ∈ spawned →
      (∃ e, (l, p) = entryTask A e) ∨ (∀ message, l.kind ≠ .worker message) ∧
        ∀ payload, l.kind = .webhook payload → payload.jobId ∈ acceptedJobs w := by
  cases arr with
  | readMessages consumer replyLost =>
    obtain ⟨r, -, he⟩ := Option.map_eq_some_iff.1 harr
    obtain ⟨rfl, rfl⟩ := Prod.mk.inj he
    refine ⟨h.owed, h.reported, fun l p hlp => .inl ?_⟩
    cases replyLost with
    | true => cases hlp
    | false =>
      obtain ⟨e, -, he⟩ := List.mem_map.1 hlp
      exact ⟨e, he.symm⟩
  | callback payload =>
    obtain ⟨renderer, hr, he⟩ := Option.map_eq_some_iff.1 harr
    obtain ⟨rfl, rfl⟩ := Prod.mk.inj he
    unfold Renderer.report at hr
    dsimp only at hr
    split at hr
    · next howed =>
      cases hr
      have hjob : payload.jobId ∈ acceptedJobs w := List.mem_map_of_mem (h.owed _ howed)
      refine ⟨fun job hjob => h.owed job (List.mem_of_mem_erase hjob), fun payload' hpayload => ?_,
        fun l p hlp => .inr ?_⟩
      · rcases List.mem_cons.1 hpayload with rfl | hold
        · exact hjob
        · exact h.reported payload' hold
      · obtain ⟨rfl, -⟩ := Prod.mk.inj (List.mem_singleton.1 hlp)
        refine ⟨fun _ => nofun, fun payload' hkind => ?_⟩
        cases hkind
        exact hjob
    · cases hr
  | duplicateCallback n =>
    obtain ⟨payload, hpayload, he⟩ := Option.map_eq_some_iff.1 harr
    obtain ⟨rfl, rfl⟩ := Prod.mk.inj he
    refine ⟨h.owed, h.reported, fun l p hlp => .inr ?_⟩
    obtain ⟨rfl, -⟩ := Prod.mk.inj (List.mem_singleton.1 hlp)
    refine ⟨fun _ => nofun, fun payload' hkind => ?_⟩
    cases hkind
    exact h.reported _ (List.mem_of_getElem? hpayload)
  | _ =>
    cases harr
    refine ⟨h.owed, h.reported, fun l p hlp => .inr ?_⟩
    obtain ⟨rfl, -⟩ := Prod.mk.inj (List.mem_singleton.1 hlp)
    exact ⟨fun _ => nofun, fun _ => nofun⟩

end Records

/-- The mode in which a task starts. -/
def runStart (l : Label) : RunMode :=
  match l.kind with
  | .worker message => .run message.jobId false false
  | _ => .request

theorem runStart_of_not_worker {l : Label} (h : ∀ message, l.kind ≠ .worker message) :
    runStart l = .request := by
  unfold runStart
  split
  · next message hkind => exact absurd hkind (h message)
  · rfl

/-- Every step keeps the discipline. -/
theorem records_kept {ok : (system A).State → (system A).Action → Prop} : (records A).Kept ok where
  mono w v v' hv hinv := by
    have hold {i l m} (hi : v' i = some (l, m)) : v i = some (l, m) := by
      rcases hv i with hnone | hsame
      · rw [hnone] at hi
        cases hi
      · exact hsame ▸ hi
    exact ⟨hinv.owed, hinv.reported, fun i l m payload hi => hinv.webhook i l m payload (hold hi),
      fun i l m message hi => hinv.run i l m message (hold hi)⟩
  act s f i c l o k _ hti hinv hpre :=
    ⟨(f i).after o (o.exec s.world c).1, rfl, hinv.act (Discipline.view_of_task hti) hpre c⟩
  arrive s f arr w spawned _ harr hinv := by
    obtain ⟨howed, hreported, hspawned⟩ := spawned_ok hinv harr
    have haccepted : acceptedJobs w = acceptedJobs s.world := by
      unfold acceptedJobs
      rw [accepted_of_arrive harr]
    refine ⟨Discipline.startModes runStart spawned, fun n l p hn => ?_, ?_⟩
    · rw [Discipline.startModes_of_getElem runStart hn]
      obtain ⟨e, he⟩ | ⟨hkind, -⟩ := hspawned l p (List.mem_of_getElem? hn)
      · obtain ⟨rfl, rfl⟩ := Prod.mk.inj he
        exact record_entry
      · rw [runStart_of_not_worker hkind]
        exact record_request p
    · refine ⟨fun job hjob => ?_, fun payload hpayload => ?_, fun i l m payload hi hkind => ?_,
        fun i l m message hi hkind => ?_⟩
      · rw [accepted_of_arrive harr]
        exact howed job hjob
      · rw [haccepted]
        exact hreported payload hpayload
      · rw [haccepted]
        split at hi
        · exact hinv.webhook i l m payload hi hkind
        · obtain ⟨⟨l', p⟩, hn, he⟩ := Option.map_eq_some_iff.1 hi
          obtain ⟨rfl, -⟩ := Prod.mk.inj he
          obtain ⟨e, he⟩ | ⟨-, hwebhook⟩ := hspawned l' p (List.mem_of_getElem? hn)
          · obtain ⟨rfl, -⟩ := Prod.mk.inj he
            cases hkind
          · exact hwebhook payload hkind
      · rw [haccepted]
        split at hi
        · exact hinv.run i l m message hi hkind
        · obtain ⟨⟨l', p⟩, hn, he⟩ := Option.map_eq_some_iff.1 hi
          obtain ⟨rfl, rfl⟩ := Prod.mk.inj he
          refine ⟨false, false, ?_, nofun⟩
          rw [Discipline.startModes_of_getElem runStart hn]
          unfold runStart
          rw [hkind]

theorem records_holds {ok : (system A).State → (system A).Action → Prop} {s : (system A).State}
    (hs : Reachable A ok s) : (records A).Holds s := by
  obtain ⟨w, hw, h⟩ := hs
  refine Discipline.holds_of_reach records_kept h (Discipline.holds_start ⟨fun job hjob => ?_,
    fun payload hpayload => ?_, fun _ _ _ _ => nofun, fun _ _ _ _ => nofun⟩)
  · rw [hw.renderer] at hjob
    cases hjob
  · rw [hw.renderer] at hpayload
    cases hpayload

/-! ## Jobs out of use -/

/-- No task may hand the job over, no message of it is unread, and its id is not drawn again. -/
structure OutOfUse (j : Uuid) (w : World) (v : Nat → Option (Label × JobMode)) : Prop where
  sound : w.redis.jobs.Sound
  drawnBefore : j.value < w.nextUuid
  unread : ∀ e ∈ w.redis.jobs.unread, e.fields.jobId ≠ some j
  held : ∀ i l m, v i = some (l, m) → m.job ≠ some j

/-- The discipline. -/
def outOfUse (A : AppState) (j : Uuid) : Discipline (system A) JobMode where
  spec := jobsSpec
  inv := OutOfUse j

section OutOfUse

variable {w w' : World} {v : Nat → Option (Label × JobMode)} {i : Nat} {l l' : Label}
  {m m' : JobMode} {j : Uuid}

theorem OutOfUse.held_update (h : OutOfUse j w v) (hm : m'.job ≠ some j) :
    ∀ i' l₁ m₁, Function.update v i (some (l', m')) i' = some (l₁, m₁) → m₁.job ≠ some j := by
  intro i' l₁ m₁ hi'
  by_cases hii : i' = i
  · subst hii
    rw [Function.update_self] at hi'
    obtain ⟨-, rfl⟩ := Prod.mk.inj (Option.some.inj hi')
    exact hm
  · rw [Function.update_of_ne hii] at hi'
    exact h.held i' l₁ m₁ hi'

/-- A call keeps a job out of use. -/
theorem OutOfUse.act (h : OutOfUse j w v) (hi : v i = some (l, m)) {o : Operation}
    (hpre : jobsSpec.pre m o) (c : Choice) :
    OutOfUse j (o.exec w c).2
      (Function.update v i (some (l.after o, m.after o (o.exec w c).1))) := by
  have hm := h.held i l m hi
  obtain hstill | rfl | ⟨message, rfl⟩ | ⟨request, rfl⟩ := still_or o
  · rw [after_of_still hstill]
    obtain ⟨hkeeps, hsound, -, hnext⟩ := exec_of_still h.sound hstill c
    exact ⟨hsound, hnext ▸ h.drawnBefore, fun e he => h.unread e (hkeeps.unread e he),
      h.held_update hm⟩
  · refine ⟨h.sound, Nat.lt_succ_of_lt h.drawnBefore, h.unread, h.held_update ?_⟩
    cases m with
    | free drawn =>
      -- The id that is drawn is a fresh one.
      intro hj
      obtain rfl : (⟨w.nextUuid⟩ : Uuid) = j := Option.some.inj hj
      exact Nat.lt_irrefl _ h.drawnBefore
    | running e b => exact hm
    | requeued => exact hpre.elim
  · have hdone : (m.after (.command (.xadd message))
        (Operation.exec w (.command (.xadd message)) c).1).job ≠ some j := by
      cases m <;> nofun
    have hother : message.jobId ≠ some j := by
      cases m with
      | free drawn =>
        obtain ⟨j', rfl, hj', -⟩ := hpre
        rw [hj']
        exact hm
      | running e b =>
        rw [NextAttempt.jobId hpre]
        exact hm
      | requeued => exact hpre.elim
    obtain hsame | ⟨hadd, -, hnext⟩ := exec_xadd w message c
    · rw [hsame]
      exact ⟨h.sound, h.drawnBefore, h.unread, h.held_update hdone⟩
    · refine ⟨hadd ▸ h.sound.add message, hnext ▸ h.drawnBefore, fun e he => ?_,
        h.held_update hdone⟩
      rw [hadd] at he
      rcases Stream.unread_of_add he with hold | rfl
      · exact h.unread e hold
      · exact hother
  · refine ⟨h.sound, h.drawnBefore, h.unread, h.held_update ?_⟩
    cases m with
    | free drawn => nofun
    | running e b => exact hm
    | requeued => exact hpre.elim

/-- A read delivers no message of a job out of use. -/
theorem OutOfUse.read (h : OutOfUse j w v) {es seen : List (StreamEntry JobMessage)}
    {jobs : Stream JobMessage} {consumer : String} {next : Nat}
    (hread : w.redis.jobs.readGroup consumer batchSize = some (es, jobs)) (hsub : seen.Sublist es) :
    OutOfUse j { w with redis := { w.redis with jobs } } (withRuns (A := A) next v seen) := by
  have hwf := h.sound.wf
  refine ⟨h.sound.read hread, h.drawnBefore, fun e he =>
    h.unread e ((Stream.keeps_read hwf hread).unread e he), fun i l m hi => ?_⟩
  rcases withRuns_cases hi with hold | ⟨e, -, he, -, rfl⟩
  · exact h.held i l m hold
  · have hmem := hsub.subset (List.mem_of_getElem? he)
    exact h.unread e (Stream.not_unread_of_read hwf hread hmem).1

/-- Every step keeps a job out of use. -/
theorem outOfUse_kept {ok : (system A).State → (system A).Action → Prop} :
    (outOfUse A j).Kept ok where
  mono w v v' hv hinv := by
    refine ⟨hinv.sound, hinv.drawnBefore, hinv.unread, fun i l m hi => ?_⟩
    rcases hv i with hnone | hsame
    · rw [hnone] at hi
      cases hi
    · exact hinv.held i l m (hsame ▸ hi)
  act s f i c l o k _ hti hinv hpre :=
    ⟨(f i).after o (o.exec s.world c).1, rfl, hinv.act (Discipline.view_of_task hti) hpre c⟩
  arrive s f arr w spawned _ harr hinv := by
    obtain ⟨consumer, es, stream, seen, hread, rfl, hsub, rfl⟩ | ⟨hredis, -, hnext, hspawned⟩ :=
      arrive_jobs harr
    · refine ⟨runModes seen, fun n l p hn => ?_, ?_⟩
      · obtain ⟨e, rfl, hmode⟩ := runModes_of_getElem hn
        rw [hmode]
        exact follows_entry
      · have heq := withRuns_eq (A := A) s.next (Discipline.view s f) seen
        change OutOfUse j _ (fun i => if i < s.next then Discipline.view s f i
          else (seen.map (entryTask A))[i - s.next]?.map fun lp =>
            (lp.1, runModes seen (i - s.next)))
        rw [heq]
        exact hinv.read hread hsub
    · refine ⟨fun _ => .free none, fun n l p hn => ?_, ?_⟩
      · obtain ⟨hspawned, hkind⟩ := hspawned l p (List.mem_of_getElem? hn)
        exact follows_request hspawned hkind
      · refine ⟨hredis ▸ hinv.sound, hnext ▸ hinv.drawnBefore, hredis ▸ hinv.unread,
          fun i l m hi => ?_⟩
        split at hi
        · exact hinv.held i l m hi
        · obtain ⟨lp, -, he⟩ := Option.map_eq_some_iff.1 hi
          obtain ⟨-, rfl⟩ := Prod.mk.inj he
          nofun

end OutOfUse

/-! ## After a run has marked its row failed -/

theorem quiet_of_failed {jobId : Option Uuid} {accepted : Bool} {o : Operation}
    (h : recordSpec.pre (.run jobId accepted true) o) : QuietCall o := by
  cases o with
  | postJob request => cases h.1
  | command c =>
    cases c with
    | xadd message => cases h
    | _ => trivial
  | _ => trivial

theorem failed_after (jobId : Option Uuid) (accepted : Bool) (o : Operation) (r : o.Resp) :
    ∃ accepted', RunMode.after (.run jobId accepted true) o r = .run jobId accepted' true := by
  cases o with
  | postJob request => exact ⟨_, rfl⟩
  | query q =>
    cases q with
    | onRow id st => cases st <;> exact ⟨_, rfl⟩
    | _ => exact ⟨_, rfl⟩
  | _ => exact ⟨_, rfl⟩

theorem free_after (d : Option Uuid) (o : Operation) (r : o.Resp) :
    ∃ d', JobMode.after (.free d) o r = .free d' := by
  cases o with
  | command c => cases c <;> exact ⟨_, rfl⟩
  | _ => exact ⟨_, rfl⟩

/-- What is left of such a run has no job. -/
theorem free_of_failed {p : Gateway Unit} {jobId : Option Uuid} {accepted : Bool}
    (hp : p.wp recordSpec (fun _ _ => True) (.run jobId accepted true)) :
    p.wp jobsSpec (fun _ _ => True) (.free none) := by
  refine wp_mono (fun _ _ _ => trivial) (wp_simulates
    (R := fun m m' => (∃ jobId accepted, m = .run jobId accepted true) ∧ ∃ d, m' = .free d)
    ?_ ?_ ⟨⟨_, _, rfl⟩, _, rfl⟩ hp)
  · rintro _ _ o ⟨⟨jobId, accepted, rfl⟩, d, rfl⟩ h
    exact (free_of_quiet (quiet_of_failed h) ⟨d, rfl⟩).1
  · rintro _ _ o r _ ⟨⟨jobId, accepted, rfl⟩, d, rfl⟩ rfl
    obtain ⟨accepted', hrun⟩ := failed_after jobId accepted o r
    exact ⟨_, rfl, ⟨jobId, accepted', hrun⟩, free_after d o r⟩

/-- The job of a run that marks its row failed is out of use. -/
theorem outOfUse_of_failed {ok : (system A).State → (system A).Action → Prop}
    {s s' : (system A).State} (hs : Reachable A ok s) {i : Nat} {c : Choice} {l : Label}
    {o : Operation} {k : o.Resp → Gateway Unit} {id j : Uuid} {code text : String}
    {retryable : Bool} {context jobContext : Option Json} {attempt : Option Int}
    {message : JobMessage} (hti : s.tasks i = some ⟨l, .op o k⟩)
    (ho : o = .query (.onRow id (.markFailed code text retryable context attempt jobContext)))
    (hkind : l.kind = .worker message) (hj : message.jobId = some j)
    (hstep : Pool.step s (.act i c) = some s') : (outOfUse A j).Holds s' := by
  obtain ⟨f, hinv, hfollows⟩ := jobs_holds False (fun h => h.elim) hs
  obtain ⟨f', hrecords, hfollows'⟩ := records_holds hs
  obtain ⟨e, b, hmode, rfl⟩ := running_of_worker hinv hfollows hti hkind
  obtain ⟨hjobs, -⟩ := hinv
  obtain ⟨accepted, failed, hmode', -⟩ :=
    hrecords.run i l (f' i) e.fields (Discipline.view_of_task hti) hkind
  have hi : Discipline.view s f i = some (l, .running e b) := hmode ▸ Discipline.view_of_task hti
  have hstill : StillCall o := by
    rw [ho]
    exact ⟨trivial, by rintro ⟨⟩⟩
  obtain ⟨hkeeps, hsound, -, hnext⟩ := exec_of_still hjobs.sound hstill c
  obtain ⟨hmem, -, -⟩ := hjobs.running i l e b hi
  have hdrawn := hjobs.drawnBefore j (List.ne_nil_of_mem (mem_messagesOf.2 ⟨hmem, hj⟩))
  simp only [Pool.step, hti, Option.some.injEq] at hstep
  subst hstep
  refine ⟨Function.update f i (.free none), ⟨hsound, hnext ▸ hdrawn, fun e' he' =>
    hjobs.not_unread hi hj e' (hkeeps.unread e' he'), fun i' l' m hi' => ?_⟩, fun i' t ht => ?_⟩
  · by_cases hii : i' = i
    · subst hii
      obtain ⟨t, -, he⟩ := Option.map_eq_some_iff.1 hi'
      obtain ⟨-, rfl⟩ := Prod.mk.inj he
      rw [Function.update_self]
      rintro ⟨⟩
    · simp only [Discipline.view, Function.update_of_ne hii] at hi'
      exact fun hj' => hii (hjobs.alone i' i l' l m _ j hi' hi hj' hj)
  · by_cases hii : i' = i
    · subst hii
      simp only [Function.update_self] at ht ⊢
      rw [Pool.keep_eq_some ht]
      have hafter : RunMode.after (f' i') o (o.exec s.world c).1 =
          .run e.fields.jobId accepted true := by
        rw [hmode']
        subst ho
        rfl
      exact free_of_failed ((hfollows' i' _ hti).2 _ _ hafter.symm)
    · simp only [Function.update_of_ne hii] at ht ⊢
      exact hfollows i' t ht

/-! ## The results -/

/-- A run for the job. -/
def Kind.runsJob (j : Uuid) : Kind → Bool
  | .worker message => message.jobId == some j
  | _ => false

/-- The handling of a callback for the job. -/
def Kind.reportsJob (j : Uuid) : Kind → Bool
  | .webhook payload => payload.jobId == j
  | _ => false

theorem worker_of_runsJob {j : Uuid} {kind : Kind} (h : kind.runsJob j = true) :
    ∃ message, kind = .worker message ∧ message.jobId = some j := by
  cases kind with
  | worker message => exact ⟨message, rfl, beq_iff_eq.1 h⟩
  | _ => cases h

theorem webhook_of_reportsJob {j : Uuid} {kind : Kind} (h : kind.reportsJob j = true) :
    ∃ payload, kind = .webhook payload ∧ payload.jobId = j := by
  cases kind with
  | webhook payload => exact ⟨payload, rfl, beq_iff_eq.1 h⟩
  | _ => cases h

/-- The step is the statement with which a run records the `generation_status` of its job, or a
callback that of the job which it reports. -/
def Records (j : Uuid) (s : (system A).State) (a : (system A).Action) : Prop :=
  (Pool.called s a).any fun lo => match lo.2 with
    | .query (.onRow _ (.update .markProcessing)) => lo.1.kind.runsJob j
    | .query (.onRow _ (.markFailed _ _ _ _ _ _)) => lo.1.kind.runsJob j
    | .query (.onRow _ (.update (.generationJobStatus _ _))) => lo.1.kind.reportsJob j
    | _ => false

/-- The step submits the job to the renderer. -/
def Submits (j : Uuid) (s : (system A).State) (a : (system A).Action) : Prop :=
  (Pool.called s a).any fun lo => match lo.2 with
    | .postJob request => request.job.jobId == j
    | _ => false

instance (j : Uuid) (s : (system A).State) (a : (system A).Action) : Decidable (Records j s a) :=
  inferInstanceAs (Decidable (_ = true))

instance (j : Uuid) (s : (system A).State) (a : (system A).Action) : Decidable (Submits j s a) :=
  inferInstanceAs (Decidable (_ = true))

section Results

variable {ok : (system A).State → (system A).Action → Prop} {s s' u : (system A).State}
  {a : (system A).Action} {j : Uuid}

/-- A step that makes a call. -/
theorem act_of_called {φ : Label × Operation → Bool} (h : (Pool.called s a).any φ) :
    ∃ i c l o k, a = .act i c ∧ s.tasks i = some ⟨l, .op o k⟩ ∧ φ (l, o) := by
  obtain ⟨⟨l, o⟩, hcalled, hφ⟩ := (Option.any_eq_true _ _).1 h
  obtain ⟨i, c, k, ha, hti⟩ := Pool.act_of_called hcalled
  exact ⟨i, c, l, o, k, ha, hti, hφ⟩

/-- What a submission is about. -/
theorem task_of_submits (h : Submits j s a) :
    ∃ i l request k, s.tasks i = some ⟨l, .op (.postJob request) k⟩ ∧ request.job.jobId = j := by
  obtain ⟨i, c, l, o, k, -, hti, ho⟩ := act_of_called h
  cases o with
  | postJob request => exact ⟨i, l, request, k, hti, beq_iff_eq.1 ho⟩
  | _ => cases ho

/-- A job out of use is not submitted. -/
theorem not_submits_of_outOfUse (h : (outOfUse A j).Holds s) : ¬ Submits j s a := by
  intro hsubmits
  obtain ⟨i, l, request, k, hti, rfl⟩ := task_of_submits hsubmits
  obtain ⟨f, hinv, hfollows⟩ := h
  exact hinv.held i l (f i) (Discipline.view_of_task hti)
    (JobMode.job_of_unsubmitted (unsubmitted_of_postJob (hfollows i _ hti).1))

/-- Where the messages of accepted jobs are spared, an accepted job is not submitted. -/
theorem not_submits_of_accepted (hs : Reachable A SparesAccepted s)
    (hj : j ∈ acceptedJobs s.world) : ¬ Submits j s a := by
  intro hsubmits
  obtain ⟨i, l, request, k, hti, rfl⟩ := task_of_submits hsubmits
  obtain ⟨f, hinv, hfollows⟩ := jobs_holds True (fun _ _ _ h => h) hs
  exact (hinv.2 trivial).unsubmitted i l (f i) _ (view_eq hti)
    (unsubmitted_of_postJob (hfollows i _ hti).1) hj

/-- A step that records a job: the renderer has accepted it, or nothing hands it over any more. -/
theorem accepted_or_outOfUse (hs : Reachable A ok s) (hstep : Pool.step s a = some s')
    (h : Records j s a) : j ∈ acceptedJobs s.world ∨ (outOfUse A j).Holds s' := by
  obtain ⟨i, c, l, o, k, rfl, hti, ho⟩ := act_of_called h
  obtain ⟨f, hrecords, hfollows⟩ := records_holds hs
  have hi := Discipline.view_of_task (f := f) hti
  dsimp only at ho
  split at ho
  · -- A run marks the row `processing`, which it does only for an accepted job.
    obtain ⟨message, hkind, hj⟩ := worker_of_runsJob ho
    obtain ⟨accepted, failed, hmode, haccepted⟩ := hrecords.run i l (f i) message hi hkind
    have hpre := (hfollows i _ hti).1
    rw [hmode] at hpre
    exact .inl (haccepted (hpre (by rw [hj]; rfl)) j hj)
  · -- A run marks the row failed.
    obtain ⟨message, hkind, hj⟩ := worker_of_runsJob ho
    exact .inr (outOfUse_of_failed hs hti rfl hkind hj hstep)
  · -- A callback reports the job.
    obtain ⟨payload, hkind, rfl⟩ := webhook_of_reportsJob ho
    exact .inl (hrecords.webhook i l (f i) payload hi hkind)
  · cases ho

/-- A job that was accepted, or that a run or a callback has recorded, is not submitted again in a
run in which no message of an accepted job is put back, and the renderer accepts it at most once. -/
theorem not_submitted_again (hs : Reachable A SparesAccepted s) (ha : SparesAccepted s a)
    (hstep : Pool.step s a = some s') (hu : Pool.Reach SparesAccepted s' u)
    (h : Records j s a ∨ j ∈ acceptedJobs s'.world) :
    (∀ b, ¬ Submits j u b) ∧ (acceptedJobs u.world).count j ≤ 1 := by
  have hs' : Reachable A SparesAccepted s' := hs.trans (Relation.ReflTransGen.single ⟨a, ha, hstep⟩)
  have hreach : Reachable A SparesAccepted u := hs'.trans hu
  obtain ⟨f, hinv, -⟩ := jobs_holds True (fun _ _ _ h => h) hreach
  refine ⟨fun b => ?_, List.nodup_iff_count_le_one.1 (hinv.2 trivial).nodup j⟩
  have hrecorded : j ∈ acceptedJobs u.world ∨ (outOfUse A j).Holds u := by
    obtain h | h := h
    · obtain haccepted | hout := accepted_or_outOfUse hs hstep h
      · exact .inl (accepted_of_reach ((Pool.Reach.refl s).tail ⟨a, ha, hstep⟩ |>.trans hu) haccepted)
      · exact .inr (Discipline.holds_of_reach outOfUse_kept hu hout)
    · exact .inl (accepted_of_reach hu h)
  obtain haccepted | hout := hrecorded
  · exact not_submits_of_accepted hreach haccepted
  · exact not_submits_of_outOfUse hout

end Results

/-- The run of a request has got its job accepted. -/
def jobAccepted : List ((system sampleGateway).Action) := requestRead ++ calls 2 28

/-- The run has marked the row, and the renderer reports the job. -/
def recordedOnce : List ((system sampleGateway).Action) :=
  calls 2 4 ++ [.arrive (.callback completedCallback)] ++ calls 3 3

/-- The run has marked the row and cannot read it again.  It puts its message back, which is read. -/
def recordedPutBack : List ((system sampleGateway).Action) :=
  calls 2 1 ++ [.act 2 { fine with fault := .failed "connection refused" }] ++ calls 2 4 ++
    [.arrive (.readMessages "worker-1" false)] ++ calls 3 22

/-- A job that is recorded as `processing` and reported as completed. -/
theorem not_submitted_again_sample :
    ∃ s s' u : (system sampleGateway).State, Pool.step s (.act 2 fine) = some s' ∧
      Records ⟨1⟩ s (.act 2 fine) ∧
      (u.world.db.row ⟨0⟩).map MediaGeneration.generationStatus = some (some .completed) ∧
      (∀ b, ¬ Submits ⟨1⟩ u b) ∧ (acceptedJobs u.world).count ⟨1⟩ ≤ 1 := by
  have hplay : ((Pool.play SparesAccepted ((system sampleGateway).start sampleWorld)
      jobAccepted).bind fun s => (Pool.play SparesAccepted s (.act 2 fine :: recordedOnce)).map
        fun u => (decide (Records ⟨1⟩ s (.act 2 fine)),
          (u.world.db.row ⟨0⟩).map MediaGeneration.generationStatus)) =
      some (true, some (some .completed)) := by decide +kernel
  obtain ⟨s, hs, hplay⟩ := Option.bind_eq_some_iff.1 hplay
  obtain ⟨u, hu, he⟩ := Option.map_eq_some_iff.1 hplay
  obtain ⟨s', hspares, hstep, hrest⟩ := Pool.play_cons hu
  obtain ⟨hrecords, hstatus⟩ := Prod.mk.inj he
  have hrecords := of_decide_eq_true hrecords
  exact ⟨s, s', u, hstep, hrecords, hstatus, not_submitted_again
    ⟨_, initial_sampleWorld, .of_play hs⟩ hspares hstep (.of_play hrest) (.inl hrecords)⟩

/-- A job that its run has recorded as `processing` is submitted by the next run. -/
theorem submitted_after_record :
    ¬ ∀ (s s' u : (system sampleGateway).State) (a b : (system sampleGateway).Action) (j : Uuid),
      Reachable sampleGateway (fun _ _ => True) s → Pool.step s a = some s' →
      Pool.Reach (fun _ _ => True) s' u → Records j s a → ¬ Submits j u b := by
  intro h
  have hplay : ((Pool.play (fun _ _ => True) ((system sampleGateway).start sampleWorld)
      jobAccepted).bind fun s => (Pool.play (fun _ _ => True) s
        (.act 2 fine :: recordedPutBack)).map fun u => (decide (Records ⟨1⟩ s (.act 2 fine)),
          decide (Submits ⟨1⟩ u (.act 3 fine)))) = some (true, true) := by decide +kernel
  obtain ⟨s, hs, hplay⟩ := Option.bind_eq_some_iff.1 hplay
  obtain ⟨u, hu, he⟩ := Option.map_eq_some_iff.1 hplay
  obtain ⟨s', -, hstep, hrest⟩ := Pool.play_cons hu
  obtain ⟨hrecords, hsubmits⟩ := Prod.mk.inj he
  exact h s s' u _ _ ⟨1⟩ ⟨_, initial_sampleWorld, .of_play hs⟩ hstep (.of_play hrest)
    (of_decide_eq_true hrecords) (of_decide_eq_true hsubmits)

end KlassGateway
