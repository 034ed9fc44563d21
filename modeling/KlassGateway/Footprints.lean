import KlassGateway.Lib.Footprint
import KlassGateway.System
/-!
# What the programs call

One footprint for each program of a worker run.  `RowCall T g` are the calls on
the row of `g` with the statements of `T`; `StepCall T g` adds the services
behind the step callbacks.  The statements of a run are divided by the phase
that makes them:

* `ClassifyStatement`: the payloads that `ensure_classified` stores.
* `DeliverStatement`: what the other phases do.
* `RunStatement`: all of them, and the transitions of `ensure_classified`.

`QueueCall` and `FailCall` are the calls of a worker after its run, and
`HandlerCall` those of the request handlers besides their insertions.

The transitions that a run requests are `runTargets`: neither `uploading`, nor
`cancelled`, nor `failed` is among them.
-/

namespace KlassGateway

open Lib Lib.Prog Db Orchestrator Llm MediaGen Queue Api

/-- The statuses that the phases after the classification ask for. -/
def deliverTargets : List MediaGenerationStatus := [.generating, .publishing, .completed]

/-- The statuses that a run asks the audit trail for. -/
def runTargets : List MediaGenerationStatus := .interpreting :: .classified :: deliverTargets

/-! ## Statements -/

/-- The statements that store the classification. -/
def ClassifyStatement : RowStatement → Prop
  | .update (.interpretation _ _ _) => True
  | .update (.decision _ _ _) => True
  | _ => False

/-- The statements of the step callbacks. -/
def StepStatement : RowStatement → Prop
  | .update (.delivery _) => True
  | .publish _ _ => True
  | s => ClassifyStatement s

/-- The statements outside of the classification. -/
def DeliverStatement : RowStatement → Prop
  | .initializeAudit => True
  | .transition toStatus _ _ _ => toStatus ∈ deliverTargets
  | .update .markProcessing => True
  | .update (.delivery _) => True
  | .publish _ _ => True
  | _ => False

/-- The statements outside of the classification and the composition. -/
def UncomposedStatement : RowStatement → Prop
  | .update (.delivery _) => False
  | s => DeliverStatement s

/-- A transition that a run requests. -/
def RunTransition : RowStatement → Prop
  | .transition toStatus _ _ _ => toStatus ∈ runTargets
  | _ => False

/-- The statements of a run. -/
def RunStatement (s : RowStatement) : Prop :=
  DeliverStatement s ∨ ClassifyStatement s ∨ RunTransition s

/-! ## Calls -/

/-- Calls on the row of `g` with the statements of `T`, and the clock. -/
def RowCall (T : RowStatement → Prop) (g : Uuid) : Operation → Prop
  | .query (.onRow id s) => id = g ∧ T s
  | .query (.findById id) => id = g
  | .now => True
  | _ => False

/-- The services behind the step callbacks, and what is read for them. -/
def ServiceCall : Operation → Prop
  | .query (.composeRow _) => True
  | .query (.findSubject _) => True
  | .query (.findSubSubject _) => True
  | .interpret _ => True
  | .draft _ => True
  | .respond _ => True
  | _ => False

/-- The calls of a step callback whose statements are in `T`. -/
def StepCall (T : RowStatement → Prop) (g : Uuid) (o : Operation) : Prop :=
  RowCall T g o ∨ ServiceCall o

/-- A fresh id, or a span. -/
def LocalCall : Operation → Prop
  | .newUuid => True
  | .span _ => True
  | _ => False

/-- The calls of a run besides its submission. -/
def DeliverCall (T : RowStatement → Prop) (g : Uuid) (o : Operation) : Prop :=
  StepCall T g o ∨ LocalCall o

/-- The calls of a submission to the renderer. -/
def SubmitCall (g jobId : Uuid) (o : Operation) : Prop :=
  o = .query (.findById g) ∨ ∃ request, o = .postJob request ∧ request.job = ⟨g, jobId⟩

/-- The calls of a run for the generation `g`. -/
def RunCall (g : Uuid) (o : Operation) : Prop :=
  DeliverCall RunStatement g o ∨ ∃ jobId, SubmitCall g jobId o

/-- The statements of a run besides that of its composition. -/
def UncomposedRunStatement (s : RowStatement) : Prop :=
  UncomposedStatement s ∨ ClassifyStatement s ∨ RunTransition s

/-- The calls of a run for the generation `g` besides its composition. -/
def UncomposedCall (g : Uuid) (o : Operation) : Prop :=
  DeliverCall UncomposedRunStatement g o ∨ ∃ jobId, SubmitCall g jobId o

/-- The calls of a worker on the queue. -/
def QueueCall : Operation → Prop
  | .command _ => True
  | .now => True
  | _ => False

/-- The call that marks the row of `g` failed. -/
def FailCall (g : Uuid) : Operation → Prop
  | .query (.onRow id (.markFailed _ _ _ _ _ _)) => id = g
  | _ => False

/-- The calls of a worker after its run. -/
def TailCall (g : Uuid) (o : Operation) : Prop := QueueCall o ∨ FailCall g o

/-- The updates that the handlers make. -/
def HandlerUpdate : RowUpdate → Prop
  | .payloads p => p = { generatorServiceResponse := p.generatorServiceResponse }
  | .generationJobStatus _ _ => True
  | .s3Metadata _ _ _ => True
  | .generationError _ _ => True
  | .clarificationState _ _ _ => True
  | .resetForReprocessing _ => True
  | _ => False

/-- The calls of the handlers besides their insertions. -/
def HandlerCall : Operation → Prop
  | .query (.findById _) => True
  | .query (.findByJobId _) => True
  | .query (.findActiveDuplicate _ _) => True
  | .query (.onRow _ (.update u)) => HandlerUpdate u
  | .command _ => True
  | .now => True
  | .newUuid => True
  | .postJob _ => True
  | .checkUserRateLimit _ _ => True
  | _ => False

/-- Every call of a program of the gateway satisfies `φ`. -/
abbrev OnlyCalls {α : Type} (φ : Operation → Prop) (p : Gateway α) : Prop :=
  Only (I := effects) φ p

variable {φ : Operation → Prop} {T T' : RowStatement → Prop} {g : Uuid} {P : Platform}

theorem RowCall.mono (hT : ∀ s, T s → T' s) (o : Operation) (h : RowCall T g o) :
    RowCall T' g o := by
  cases o with
  | query q =>
    cases q with
    | onRow id s => exact ⟨h.1, hT s h.2⟩
    | findById id => exact h
    | _ => cases h
  | now => trivial
  | _ => cases h

theorem DeliverCall.mono (hT : ∀ s, T s → T' s) (o : Operation) (h : DeliverCall T g o) :
    DeliverCall T' g o := h.imp_left (Or.imp_left (RowCall.mono hT o))

theorem RowCall.deliver (o : Operation) (h : RowCall T g o) : DeliverCall T g o := .inl (.inl h)

/-- The statements of a run are on its own row. -/
theorem RunCall.statement {id : Uuid} {st : RowStatement}
    (h : RunCall g (.query (.onRow id st))) : id = g ∧ RunStatement st := by
  obtain ((h | h) | h) | ⟨_, h | ⟨_, h, _⟩⟩ := h
  · exact h
  all_goals cases h

/-- A run asks for nothing but its targets. -/
theorem RunStatement.target {toStatus : MediaGenerationStatus} {context : Option Json}
    {attempt : Option Int} {jobContext : Option Json}
    (h : RunStatement (.transition toStatus context attempt jobContext)) :
    toStatus ∈ runTargets := by
  obtain h | h | h := h
  · exact List.mem_cons_of_mem _ (List.mem_cons_of_mem _ h)
  · cases h
  · exact h

/-- A run inserts no generation. -/
theorem RunCall.not_insertSubmission {row : MediaGeneration} :
    ¬ RunCall g (.query (.insertSubmission row)) := by
  rintro (((h | h) | h) | ⟨_, h | ⟨_, h, _⟩⟩) <;> cases h

theorem RunCall.not_insertRegeneration {parentId : Uuid} {row : MediaGeneration} :
    ¬ RunCall g (.query (.insertRegeneration parentId row)) := by
  rintro (((h | h) | h) | ⟨_, h | ⟨_, h, _⟩⟩) <;> cases h

theorem ClassifyStatement.step (s : RowStatement) (h : ClassifyStatement s) : StepStatement s := by
  cases s with
  | update u => cases u <;> trivial
  | _ => cases h

theorem UncomposedStatement.deliver (s : RowStatement) (h : UncomposedStatement s) :
    DeliverStatement s := by
  cases s with
  | update u =>
    cases u with
    | delivery payload => cases h
    | _ => exact h
  | _ => exact h

theorem UncomposedCall.run (o : Operation) (h : UncomposedCall g o) : RunCall g o :=
  h.imp_left (DeliverCall.mono (fun s => Or.imp_left (UncomposedStatement.deliver s)) o)

theorem RowCall.uncomposed (o : Operation) (h : RowCall UncomposedStatement g o) :
    DeliverCall UncomposedRunStatement g o := (RowCall.mono (fun _ => .inl) o h).deliver

/-! ## Single calls -/

theorem only_query {q : Query} (h : φ (.query q)) : OnlyCalls φ (query q).run :=
  only_perform (I := effects) h

theorem only_command {c : Command} (h : φ (.command c)) : OnlyCalls φ (command c).run :=
  only_perform (I := effects) h

theorem only_utcNow (h : φ .now) : OnlyCalls φ utcNow := only_perform (I := effects) h

theorem only_newV4 (h : φ .newUuid) : OnlyCalls φ newV4 := only_perform (I := effects) h

theorem only_settle (r : Option (Except AuditTrailError Unit)) :
    OnlyCalls φ (settle r).run := by
  match r with
  | none => exact safe_run_panicked
  | some (.ok ()) => exact safe_run_pure ()
  | some (.error e) => exact safe_run_throw e

/-! ## Reads -/

theorem only_selectRow : OnlyCalls (RowCall T g) (selectRow g).run :=
  safe_run_mapErr (only_query rfl)

theorem only_getStatus : OnlyCalls (RowCall T g) (getStatus g).run := by
  refine safe_run_bind only_selectRow fun r => ?_
  cases r with
  | none => exact safe_run_throw _
  | some row => exact safe_run_pure _

theorem only_statusBefore (c : MediaGenerationStatus) :
    OnlyCalls (RowCall T g) (statusBefore g c).run :=
  safe_run_bind only_getStatus fun _ => safe_run_pure _

theorem only_checkpoint (p : MediaGeneration → Bool) :
    OnlyCalls (RowCall T g) (checkpoint g p).run :=
  safe_run_bind only_selectRow fun _ => safe_run_pure _

theorem only_getDecisionContext : OnlyCalls (RowCall T g) (getDecisionContext g).run :=
  safe_run_bind only_selectRow fun _ => safe_run_pure _

theorem only_isProcessing : OnlyCalls (RowCall T g) (isProcessing g).run := by
  refine safe_run_bind only_selectRow fun r => ?_
  cases r with
  | none => exact safe_run_pure _
  | some row =>
    dsimp only
    split
    · exact safe_run_pure _
    · exact safe_run_throw _

theorem only_fetchRow : OnlyCalls (RowCall T g) (fetchRow g).run := by
  refine safe_run_bind only_selectRow fun r => ?_
  cases r with
  | none => exact safe_run_throw _
  | some row => exact safe_run_pure _

/-! ## Writes -/

theorem only_initializeAudit (h : T .initializeAudit) :
    OnlyCalls (RowCall T g) (initializeAudit g).run :=
  safe_run_bind (safe_run_mapErr (only_query ⟨rfl, h⟩)) fun r => only_settle r

theorem only_requestTransition {toStatus : MediaGenerationStatus} {context : Json} {attempt : Int}
    {jobContext : Option Json}
    (h : T (.transition toStatus (some context) (some attempt) jobContext)) :
    OnlyCalls (RowCall T g) (requestTransition g toStatus context attempt jobContext).run :=
  safe_run_mapErr (safe_run_bind (safe_run_mapErr (only_query ⟨rfl, h⟩)) fun r => only_settle r)

theorem only_resolve (interpretation : Json) (preferred : Option String) (draft : Option Json) :
    OnlyCalls (RowCall ClassifyStatement g) (resolve P g interpretation preferred draft).run := by
  unfold resolve
  split
  · exact safe_run_throw _
  · exact safe_run_bind (safe_run_liftM (only_utcNow trivial)) fun now =>
      safe_run_bind (safe_run_mapErr (only_query ⟨rfl, trivial⟩)) fun _ => safe_run_pure _

/-! ## The step adapters -/

theorem only_namedContext {lookup : Int → GatewayResult SqlxError (Option NamedRow)}
    (h : ∀ id, OnlyCalls φ (lookup id).run) (id : Option Int) :
    OnlyCalls φ (namedContext lookup id).run := by
  cases id with
  | none => exact safe_run_pure _
  | some id => exact safe_run_bind (safe_run_mapErr (h id)) fun _ => safe_run_pure _

theorem only_interpretStep
    (hT : ∀ payload provider model, T (.update (.interpretation payload provider model))) :
    OnlyCalls (StepCall T g) (interpretStep g).run :=
  safe_run_bind (only_fetchRow.mono fun _ => .inl) fun row =>
    safe_run_bind (only_namedContext (fun _ => only_query (.inr trivial)) row.subjectId) fun _ =>
      safe_run_bind (only_namedContext (fun _ => only_query (.inr trivial)) row.subSubjectId)
        fun _ => safe_run_bind (safe_run_mapErr (only_perform (I := effects) (.inr trivial)))
          fun _ => safe_run_bind (safe_run_mapErr (only_query (.inl ⟨rfl, hT _ _ _⟩)))
            fun _ => safe_run_pure _

theorem only_readInterpretation (row : MediaGeneration) :
    OnlyCalls φ (readInterpretation P row).run := by
  unfold readInterpretation
  split
  · exact safe_run_throw _
  · split
    · exact safe_run_throw _
    · exact safe_run_pure _

theorem only_draftStep : OnlyCalls (StepCall ClassifyStatement g) (draftStep P g).run :=
  safe_run_bind (only_fetchRow.mono fun _ => .inl) fun row =>
    safe_run_bind (only_readInterpretation row) fun _ =>
      safe_run_bind (safe_run_mapErr (only_perform (I := effects) (.inr trivial))) fun _ =>
        safe_run_bind (safe_run_mapErr ((only_resolve _ _ _).mono fun _ => .inl)) fun _ =>
          safe_run_pure _

theorem only_composeStep (hT : ∀ payload, T (.update (.delivery payload))) :
    OnlyCalls (StepCall T g) (composeStep g).run :=
  safe_run_bind (safe_run_mapErr (only_query (.inr trivial))) fun _ =>
    safe_run_bind (safe_run_mapErr (only_perform (I := effects) (.inr trivial))) fun _ =>
      safe_run_bind (safe_run_mapErr (only_query (.inl ⟨rfl, hT _⟩))) fun _ => safe_run_pure _

theorem only_publishStep (hT : ∀ topicId contentId, T (.publish topicId contentId)) :
    OnlyCalls (DeliverCall T g) (publishStep g).run := by
  refine safe_run_bind (safe_run_mapErr ?_) fun _ => safe_run_pure _
  refine safe_run_bind (safe_run_liftM (only_newV4 (.inr trivial))) fun topicId => ?_
  refine safe_run_bind (safe_run_liftM (only_newV4 (.inr trivial))) fun contentId => ?_
  refine safe_run_bind (safe_run_mapErr (only_query (.inl (.inl ⟨rfl, hT _ _⟩)))) fun r => ?_
  match r with
  | .ok _ => exact safe_run_pure _
  | .error _ => exact safe_run_throw _

theorem only_submitJob (url : String) (jobId : Uuid) :
    OnlyCalls (SubmitCall g jobId) (submitJob url g jobId).run := by
  refine safe_run_bind (safe_run_bind (safe_run_mapErr (only_query (.inl rfl))) fun r => ?_)
    fun _ => safe_run_bind
      (safe_run_liftM (only_perform (I := effects) (.inr ⟨_, rfl, rfl⟩))) fun reply => ?_
  · match r with
    | none => exact safe_run_throw _
    | some row =>
      dsimp only
      split
      · exact safe_run_throw _
      · exact safe_run_pure _
  · split
    · exact safe_run_pure _
    · exact safe_run_throw _

/-! ## The phases of a run -/

variable {attempt : Int} {jobContext : Option Json} {jobId : Option Uuid} {url : String}

theorem only_beginInterpreting :
    OnlyCalls (RowCall RunTransition g) (beginInterpreting g attempt jobContext).run := by
  refine safe_run_bind (only_statusBefore _) fun b => ?_
  split
  · exact only_requestTransition (by change _ ∈ runTargets; decide)
  · exact safe_run_pure _

theorem only_classifyOnce :
    OnlyCalls (StepCall ClassifyStatement g) (classifyOnce P (workerSteps P url) g).run := by
  have hresolve (interpretation : Json) (preferred : Option String) (draft : Option Json) :=
    (only_resolve (P := P) (g := g) interpretation preferred draft).mono
      (ψ := StepCall ClassifyStatement g) fun _ => .inl
  refine safe_run_bind ((only_checkpoint _).mono fun _ => .inl) fun b => ?_
  split
  · exact safe_run_pure _
  · exact safe_run_bind (only_interpretStep fun _ _ _ => trivial) fun _ =>
      safe_run_bind (only_selectRow.mono fun _ => .inl) fun _ =>
        safe_run_bind (safe_run_mapErr (hresolve _ _ _)) fun _ =>
          safe_run_bind only_draftStep fun _ =>
            safe_run_bind (safe_run_mapErr (hresolve _ _ _)) fun _ => safe_run_pure _

theorem only_finishClassified :
    OnlyCalls (RowCall RunTransition g) (finishClassified g attempt jobContext).run := by
  refine safe_run_bind (only_statusBefore _) fun b => ?_
  split
  · exact safe_run_bind only_getDecisionContext fun _ =>
      only_requestTransition (by change _ ∈ runTargets; decide)
  · exact safe_run_pure _

theorem only_ensureClassified :
    OnlyCalls (StepCall UncomposedRunStatement g)
      (ensureClassified P (workerSteps P url) g attempt jobContext).run :=
  safe_run_bind (only_beginInterpreting.mono fun o h =>
      .inl (RowCall.mono (fun _ => .inr ∘ .inr) o h)) fun _ =>
    safe_run_bind (only_classifyOnce.mono fun o h =>
        h.imp_left (RowCall.mono (fun _ => .inr ∘ .inl) o)) fun _ =>
      only_finishClassified.mono fun o h => .inl (RowCall.mono (fun _ => .inr ∘ .inr) o h)

theorem only_beginGenerating :
    OnlyCalls (RowCall UncomposedStatement g) (beginGenerating g jobId attempt jobContext).run := by
  refine safe_run_bind (only_statusBefore _) fun b => ?_
  split
  · exact safe_run_bind only_selectRow fun _ =>
      only_requestTransition (by change _ ∈ deliverTargets; decide)
  · exact safe_run_pure _

theorem only_ensurePublished :
    OnlyCalls (DeliverCall UncomposedStatement g)
      (ensurePublished (workerSteps P url) g attempt jobContext).run := by
  refine safe_run_bind ((only_checkpoint _).mono RowCall.deliver) fun b => ?_
  split
  · refine Only.mono RowCall.deliver (safe_run_bind (only_statusBefore _) fun b => ?_)
    split
    · exact only_requestTransition (by change _ ∈ deliverTargets; decide)
    · exact safe_run_pure _
  · exact safe_run_bind (only_publishStep fun _ _ => trivial) fun _ => safe_run_pure _

theorem only_finishCompleted :
    OnlyCalls (RowCall UncomposedStatement g) (finishCompleted g attempt jobContext).run := by
  refine safe_run_bind (only_statusBefore _) fun b => ?_
  split
  · exact safe_run_bind only_selectRow fun _ =>
      only_requestTransition (by change _ ∈ deliverTargets; decide)
  · exact safe_run_pure _

theorem only_submitGeneration :
    OnlyCalls (fun o => RowCall UncomposedStatement g o ∨ ∃ j, jobId = some j ∧ SubmitCall g j o)
      (submitGeneration (workerSteps P url) g jobId).run := by
  cases jobId with
  | none => exact safe_run_pure _
  | some jobId =>
    exact safe_run_bind (safe_run_mapErr ((only_submitJob url jobId).mono fun _ h =>
        .inr ⟨jobId, rfl, h⟩)) fun _ =>
      safe_run_bind (safe_run_mapErr (only_query (.inl ⟨rfl, trivial⟩))) fun _ => safe_run_pure _

section Run

/-! A run follows a specification that allows its calls besides the composition,
and that the composition follows. -/

variable {St : Type} {spec : OpSpec effects St}

theorem safe_timedStep {step : StepName} {body : GatewayResult WorkflowError Unit}
    (hspan : ∀ step s, spec.pre s (.span step)) (h : Safe spec body.run) :
    Safe spec (timedStep step body).run :=
  safe_bind (safe_perform (I := effects) (hspan _)) fun _ =>
    safe_bind h fun _ => safe_bind (safe_perform (I := effects) (hspan _)) fun _ => safe_ret _

section Deliver

variable (hcall : ∀ o, DeliverCall UncomposedStatement g o → ∀ s, spec.pre s o)
  (hcompose : Safe spec (composeStep g).run)
include hcall hcompose

theorem safe_ensureCompleted :
    Safe spec (ensureCompleted (workerSteps P url) g attempt jobContext).run := by
  have hrow : ∀ o, RowCall UncomposedStatement g o → ∀ s, spec.pre s o :=
    fun o h => hcall o (RowCall.deliver o h)
  refine safe_run_bind (safe_run_bind ((only_checkpoint _).safe hrow) fun b => ?_)
    fun _ => only_finishCompleted.safe hrow
  split
  · exact safe_run_pure _
  · exact safe_run_bind hcompose fun _ => safe_run_pure _

theorem safe_deliver : Safe spec (deliver (workerSteps P url) g attempt jobContext).run := by
  have hspan (step : Option StepName) (s : St) : spec.pre s (.span step) :=
    hcall (.span step) (.inr trivial) s
  refine safe_run_bind (only_isProcessing.safe fun o h => hcall o (RowCall.deliver o h))
    fun b => ?_
  split
  · exact safe_run_pure _
  · exact safe_run_bind (safe_timedStep hspan (only_ensurePublished.safe hcall)) fun _ =>
      safe_timedStep hspan (safe_ensureCompleted hcall hcompose)

end Deliver

theorem safe_process (hcall : ∀ o, DeliverCall UncomposedRunStatement g o → ∀ s, spec.pre s o)
    (hcompose : Safe spec (composeStep g).run)
    (hsubmit : ∀ j, jobId = some j → ∀ o, SubmitCall g j o → ∀ s, spec.pre s o)
    (attempt : Option Int) :
    Safe spec (process P (workerSteps P url) g jobId attempt jobContext).run := by
  have hrow : ∀ o, RowCall UncomposedStatement g o → ∀ s, spec.pre s o :=
    fun o h => hcall o (RowCall.uncomposed o h)
  have hspan (step : Option StepName) (s : St) : spec.pre s (.span step) :=
    hcall (.span step) (.inr trivial) s
  refine safe_run_bind (safe_run_mapErr ((only_initializeAudit trivial).safe hrow)) fun _ =>
    safe_run_bind (only_getStatus.safe hrow) fun s => ?_
  split
  · exact safe_run_pure _
  · have hclassify (n : Int) :
        Safe spec (ensureClassified P (workerSteps P url) g n jobContext).run :=
      only_ensureClassified.safe fun o h => hcall o (.inl h)
    have hsubmit : Safe spec (submitGeneration (workerSteps P url) g jobId).run :=
      only_submitGeneration.safe fun o h => h.elim (hrow o) fun ⟨j, hj, h⟩ => hsubmit j hj o h
    exact safe_run_bind (safe_timedStep hspan (hclassify _)) fun _ =>
      safe_run_bind (safe_timedStep hspan (safe_run_bind (only_beginGenerating.safe hrow)
        fun _ => hsubmit)) fun _ =>
          safe_deliver (fun o h => hcall o (DeliverCall.mono (fun _ => .inl) o h)) hcompose

end Run

/-- The calls of a run that may submit this job only. -/
def JobCall (g : Uuid) (jobId : Option Uuid) (o : Operation) : Prop :=
  DeliverCall RunStatement g o ∨ ∃ j, jobId = some j ∧ SubmitCall g j o

/-- The footprint of a worker's run, with the job of its message. -/
theorem only_processJob (attempt : Option Int) :
    OnlyCalls (JobCall g jobId)
      (process P (workerSteps P url) g jobId attempt jobContext).run := by
  have hcall (o : Operation) (h : DeliverCall UncomposedRunStatement g o) : JobCall g jobId o :=
    .inl (DeliverCall.mono (fun s => Or.imp_left (UncomposedStatement.deliver s)) o h)
  have hcompose : OnlyCalls (JobCall g jobId) (composeStep g).run :=
    (only_composeStep (T := RunStatement) fun _ => .inl trivial).mono fun _ h => .inl (.inl h)
  exact safe_process (fun o h _ => hcall o h) hcompose (fun j hj o h _ => .inr ⟨j, hj, h⟩) attempt

/-- The footprint of a worker's run. -/
theorem only_process (attempt : Option Int) :
    OnlyCalls (RunCall g)
      (process P (workerSteps P url) g jobId attempt jobContext).run :=
  (only_processJob attempt).mono fun _ h => h.imp_right fun ⟨j, _, h⟩ => ⟨j, h⟩

/-! ## After the run -/

theorem only_ackEntry (entryId : Nat) : OnlyCalls QueueCall (ackEntry entryId) := by
  refine safe_bind (only_command trivial) fun r => ?_
  match r with
  | .ok () => exact safe_bind (only_command trivial) fun _ => safe_ret _
  | .error _ => exact safe_ret _

theorem only_markFailed (code message : String) (retryable : Bool) (context : Option Json)
    (attempt : Option Int) (jobContext : Option Json) :
    OnlyCalls (FailCall g) (markFailed g code message retryable context attempt jobContext).run :=
  safe_run_bind (safe_run_mapErr (only_query rfl)) fun r => only_settle r

theorem only_sendToDlq (attemptNo : Int) (code message : String) :
    OnlyCalls (TailCall g) (sendToDlq P g attemptNo code message) :=
  safe_bind (only_utcNow (.inl trivial)) fun _ => safe_bind (only_utcNow (.inl trivial)) fun _ =>
    safe_bind (safe_run_bind (only_command (.inl trivial)) fun _ => only_command (.inl trivial))
      fun _ => safe_bind ((only_markFailed _ _ _ _ _ _).mono fun _ => .inr) fun _ => safe_ret _

theorem only_reenqueue (entryId : Nat) (message : JobMessage) :
    OnlyCalls QueueCall (reenqueue entryId message) := by
  refine safe_bind (only_command trivial) fun r => ?_
  cases r with
  | ok _ => exact safe_bind (only_command trivial) fun _ =>
      safe_bind (only_utcNow trivial) fun _ => safe_bind (only_command trivial) fun _ => safe_ret _
  | error _ => exact safe_ret _

theorem only_handleFailure (entryId : Nat) (message : JobMessage) (errorMsg : String) :
    OnlyCalls (TailCall message.generationId) (handleFailure P entryId message errorMsg) := by
  unfold handleFailure
  split
  · exact safe_bind (only_sendToDlq _ _ _) fun _ => (only_ackEntry _).mono fun _ => .inl
  · split
    · exact safe_bind (only_sendToDlq _ _ _) fun _ => (only_ackEntry _).mono fun _ => .inl
    · exact (only_reenqueue _ _).mono fun _ => .inl

/-- The footprint of a worker task. -/
theorem only_workerTask (url : String) (entryId : Nat) (message : JobMessage) :
    OnlyCalls (fun o => RunCall message.generationId o ∨ TailCall message.generationId o)
      (workerTask P (workerSteps P url) entryId message) := by
  refine safe_bind ((only_process _).mono fun _ => .inl) fun r => ?_
  match r with
  | .ok () => exact (only_ackEntry _).mono fun _ h => .inr (.inl h)
  | .error e => exact (only_handleFailure _ _ _).mono fun _ => .inr

/-- A worker task follows a specification that its run and the way to the
dead-letter queue follow, and that allows the calls of the queue. -/
theorem safe_workerTask {St : Type} {spec : OpSpec effects St} {message : JobMessage}
    (hrun : ∀ jobId attempt jobContext,
      Safe spec (process P (workerSteps P url) message.generationId jobId attempt jobContext).run)
    (hqueue : ∀ s o, QueueCall o → spec.pre s o)
    (hdlq : ∀ attemptNo code text,
      Safe spec (sendToDlq P message.generationId attemptNo code text)) (entryId : Nat) :
    Safe spec (workerTask P (workerSteps P url) entryId message) := by
  have hack : Safe spec (ackEntry entryId) := (only_ackEntry _).safe fun o ho s => hqueue s o ho
  refine safe_bind (hrun _ _ _) fun r => ?_
  match r with
  | .ok () => exact hack
  | .error e =>
    dsimp only
    unfold handleFailure
    split
    · exact safe_bind (hdlq _ _ _) fun _ => hack
    · split
      · exact safe_bind (hdlq _ _ _) fun _ => hack
      · exact (only_reenqueue _ _).safe fun o ho s => hqueue s o ho

/-! ## The handlers -/

theorem only_createConsumerGroup : OnlyCalls HandlerCall createConsumerGroup.run := by
  refine safe_run_bind (only_command trivial) fun _ =>
    safe_run_bind (safe_run_resultOf (only_command trivial)) fun r => ?_
  cases r with
  | ok _ => exact safe_run_pure _
  | error _ =>
    dsimp only
    split
    · exact safe_run_pure _
    · exact safe_run_throw _

theorem only_claimPending (consumer : String) : OnlyCalls HandlerCall (claimPending consumer).run := by
  have hall (ids : List Nat) : OnlyCalls HandlerCall (claimAll consumer ids) := by
    induction ids with
    | nil => exact safe_ret _
    | cons entryId rest ih => exact safe_bind (only_command trivial) fun _ => ih
  exact safe_run_bind (only_command trivial) fun _ =>
    safe_run_bind (only_command trivial) fun ids => safe_run_liftM (hall ids)

theorem only_updateRow {u : RowUpdate} (h : HandlerUpdate u) (id : Uuid) (failure absent : String) :
    OnlyCalls HandlerCall (updateRow id u failure absent).run := by
  refine safe_run_bind (safe_run_mapErr (only_query h)) fun r => ?_
  match r with
  | some _ => exact safe_run_pure _
  | none => exact safe_run_throw _

theorem only_findByIdForTeacher (id : Uuid) (teacherId : Int) :
    OnlyCalls HandlerCall (findByIdForTeacher id teacherId).run :=
  safe_run_bind (safe_run_mapErr (only_query trivial)) fun _ => safe_run_pure _

variable {A : AppState}

theorem only_requireTeacher (principal : Principal) :
    OnlyCalls HandlerCall (requireTeacher principal).run := by
  unfold requireTeacher
  split
  · exact safe_run_throw _
  · exact safe_run_pure _

theorem only_checkRateLimit (principal : Principal) (endpoint : String) :
    OnlyCalls HandlerCall (checkRateLimit A principal endpoint).run := by
  unfold checkRateLimit
  split
  · refine safe_run_bind (safe_run_liftM (only_perform (I := effects) trivial)) fun b => ?_
    split
    · exact safe_run_throw _
    · exact safe_run_pure _
  · exact safe_run_pure _

theorem only_handOver (generationId jobId : Uuid) :
    OnlyCalls HandlerCall (handOver A generationId jobId) := by
  unfold handOver
  split
  · exact safe_bind (safe_run_bind (only_command trivial) fun _ =>
      safe_run_bind (safe_run_liftM (only_utcNow trivial)) fun _ => only_command trivial) fun _ =>
        safe_ret _
  · exact safe_ret _

theorem only_startJob (generationId : Uuid) :
    OnlyCalls HandlerCall (startJob A generationId).run :=
  safe_run_bind (safe_run_liftM (only_newV4 trivial)) fun _ =>
    safe_run_bind (safe_run_mapErr (only_updateRow (by exact trivial) _ _ _)) fun _ =>
      safe_run_bind (safe_run_liftM (only_handOver _ _)) fun _ => safe_run_pure _

theorem only_jobIdOr (row : MediaGeneration) : OnlyCalls HandlerCall (jobIdOr row) := by
  unfold jobIdOr
  split
  · exact safe_ret _
  · exact only_newV4 trivial

theorem only_answerExisting (principal : Principal) (generationId : Uuid) :
    OnlyCalls HandlerCall (answerExisting principal generationId).run := by
  refine safe_run_bind (safe_run_mapErr (only_findByIdForTeacher _ _)) fun r => ?_
  match r with
  | none => exact safe_run_throw _
  | some row => exact safe_run_bind (safe_run_liftM (only_jobIdOr row)) fun _ => safe_run_pure _

theorem SubmitCall.handler {jobId : Uuid} (o : Operation) (h : SubmitCall g jobId o) :
    HandlerCall o := by
  obtain rfl | ⟨request, rfl, _⟩ := h
  · trivial
  · trivial

theorem only_startRegeneration (generationId : Uuid) :
    OnlyCalls HandlerCall (startRegeneration A generationId) :=
  safe_bind (only_newV4 trivial) fun _ => safe_bind (only_updateRow (by exact trivial) _ _ _) fun _ =>
    safe_bind ((only_submitJob _ _).mono SubmitCall.handler) fun _ => safe_ret _

theorem only_answerRegeneration (principal : Principal) (generationId : Uuid) :
    OnlyCalls HandlerCall (answerRegeneration principal generationId).run := by
  refine safe_run_bind (safe_run_mapErr (only_findByIdForTeacher _ _)) fun r => ?_
  match r with
  | none => exact safe_run_throw _
  | some _ => exact safe_run_pure _

theorem only_answerTerminal (row : MediaGeneration) :
    OnlyCalls HandlerCall (answerTerminal row).run :=
  safe_run_bind (safe_run_liftM (only_jobIdOr row)) fun _ => safe_run_pure _

theorem only_reprocess (generationId : Uuid) (prompt : String) (state : Json) (skipped : Bool)
    (message : String) :
    OnlyCalls HandlerCall (reprocess A generationId prompt state skipped message).run :=
  safe_run_bind (safe_run_mapErr (only_updateRow (by exact trivial) _ _ _)) fun _ =>
    safe_run_bind (safe_run_liftM (only_utcNow trivial)) fun _ =>
      safe_run_bind (safe_run_mapErr (only_updateRow (by exact trivial) _ _ _)) fun _ =>
        safe_run_bind (only_startJob _) fun _ => safe_run_pure _

theorem only_skipClarification (principal : Principal) (id : Uuid) :
    OnlyCalls HandlerCall (skipClarification A principal id).run := by
  refine safe_run_bind (only_requireTeacher _) fun _ =>
    safe_run_bind (safe_run_mapErr (only_findByIdForTeacher _ _)) fun r => ?_
  match r with
  | none => exact safe_run_throw _
  | some row =>
    dsimp only
    split
    · exact only_answerTerminal row
    · exact only_reprocess _ _ _ _ _

theorem only_webhookHandler (payload : MediaWebhookPayload) :
    OnlyCalls HandlerCall (webhookHandler A payload).run := by
  have hs3 (id : Uuid) : OnlyCalls HandlerCall (storeS3Metadata id payload).run := by
    unfold storeS3Metadata
    split
    · exact safe_run_bind (safe_run_liftM (only_utcNow trivial)) fun _ =>
        safe_run_mapErr (only_updateRow (by exact trivial) _ _ _)
    · exact safe_run_pure _
  refine safe_run_bind (safe_run_mapErr (safe_run_mapErr (only_query trivial))) fun r => ?_
  match r with
  | none => exact safe_run_throw _
  | some row =>
    dsimp only
    split_ifs
    · exact safe_run_pure _
    · exact safe_run_bind (safe_run_bind (hs3 _) fun _ =>
        safe_run_bind (safe_run_mapErr (only_updateRow (by exact rfl) _ _ _)) fun _ =>
          safe_run_mapErr (only_updateRow (by exact trivial) _ _ _)) fun _ => safe_run_pure _
    · exact safe_run_bind (safe_run_bind (safe_run_mapErr (only_updateRow (by exact trivial) _ _ _)) fun _ =>
        safe_run_mapErr (only_updateRow (by exact trivial) _ _ _)) fun _ => safe_run_pure _
    · exact safe_run_throw _

end KlassGateway
