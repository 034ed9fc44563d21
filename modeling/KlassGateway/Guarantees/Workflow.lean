import KlassGateway.Reachable
import KlassGateway.Sequential
/-!
# A run of the workflow

What `WorkflowService::process` requests of the audit trail and what it leaves
behind, when it runs alone and every step callback succeeds.

* `process_meets_iff`: every requested transition is legal and the run ends with
  the render job in progress, exactly when the run has a job id or the row is
  `processing` already.  Without either, the run goes on from `generating` to
  `publishing` or `completed`, which the matrix does not allow: nothing ever
  asks for `uploading`.
-/

namespace KlassGateway

open Lib Lib.Prog Db Orchestrator Queue MediaGen Llm Api

/-! ## The path through the matrix -/

namespace Orchestrator.MediaGenerationStatus

/-- The status after a phase that moves it to `cp`, unless it has come this far
already. -/
def advance (s cp : MediaGenerationStatus) : MediaGenerationStatus :=
  if s.statusBefore cp then cp else s

variable {s : MediaGenerationStatus} (hs : s.isEarly)
include hs

theorem canTransition_interpreting (h : s.statusBefore interpreting) :
    s.canTransition interpreting := by
  revert hs h
  cases s <;> decide

theorem canTransition_classified (h : (s.advance interpreting).statusBefore classified) :
    (s.advance interpreting).canTransition classified := by
  revert hs h
  cases s <;> decide

theorem canTransition_generating (h : (s.advance classified).statusBefore generating) :
    (s.advance classified).canTransition generating := by
  revert hs h
  cases s <;> decide

theorem advance_interpreting : (s.advance interpreting).advance classified = s.advance classified := by
  revert hs
  cases s <;> decide

theorem advance_classified : (s.advance classified).advance generating = generating := by
  revert hs
  cases s <;> decide

end Orchestrator.MediaGenerationStatus

/-! ## The two status columns -/

/-- The two status columns of a row. -/
def statuses (w : World) (g : Uuid) : Option (MediaGenerationStatus × Option GenerationStatus) :=
  (w.db.row g).map fun r => (r.status, r.generationStatus)

/-- A transition of the row that is requested is an edge of the matrix. -/
def LegalAt (g : Uuid) (w : World) : Operation → Prop
  | .query (.onRow id (.transition toStatus _ _ _)) =>
    id = g → ∀ r, w.db.row g = some r → r.status.canTransition toStatus
  | _ => True

/-- The program succeeds and leaves the row with these statuses. -/
def Leaves (g : Uuid) (x : MediaGenerationStatus × Option GenerationStatus) {ε α : Type}
    (r : Except ε α) (w : World) : Prop := r.isOk ∧ statuses w g = some x

variable {g : Uuid} {x : MediaGenerationStatus × Option GenerationStatus} {w : World}

theorem wp_leaves_bind {St : OpSpec effects World} {ε α β : Type} {p : GatewayResult ε α}
    {f : α → GatewayResult ε β} {Q : Except ε β → World → Prop}
    (hp : p.run.wp St (Leaves g x) w)
    (hf : ∀ a w', statuses w' g = some x → (f a).run.wp St Q w') : (p >>= f).run.wp St Q w :=
  wp_run_seq hp (fun a w' h => hf a w' h.2) fun _ _ h => by cases h.1

theorem wp_leaves_mapErr {St : OpSpec effects World} {ε ε' α : Type} {f : ε → ε'}
    {p : GatewayResult ε α} (hp : p.run.wp St (Leaves g x) w) :
    (mapErr f p).run.wp St (Leaves g x) w :=
  (wp_run_mapErr _ _ _ _).2 (wp_mono (fun r _ h => by cases r <;> exact h) hp)

/-! ## The calls of the phases -/

/-- The specification under which the phases run. -/
abbrev legal (g : Uuid) : OpSpec effects World := alone (LegalAt g) DbSucceeds

theorem wp_selectRow {Q : Except WorkflowError (Option MediaGeneration) → World → Prop}
    (h : Q (.ok (w.db.row g)) w) : (selectRow g).run.wp (legal g) Q w :=
  (wp_run_mapErr _ _ _ _).2 (wp_query_alone trivial (fun _ _ => h) fun _ => not_fault)

theorem wp_readRow (hw : statuses w g = some x) :
    (selectRow g).run.wp (legal g) (Leaves g x) w := wp_selectRow ⟨rfl, hw⟩

theorem wp_getStatus (hw : statuses w g = some x) :
    (getStatus g).run.wp (legal g) (fun r w' => r = .ok x.1 ∧ w' = w) w := by
  obtain ⟨r, hr, rfl⟩ := Option.map_eq_some_iff.1 hw
  refine wp_run_seq (wp_selectRow (Q := fun a w' => a = .ok (some r) ∧ w' = w) ⟨by rw [hr], rfl⟩)
    (fun a w' h => ?_) fun e w' h => by cases h.1
  obtain ⟨ha, rfl⟩ := h
  cases ha
  exact ⟨rfl, rfl⟩

theorem wp_statusBefore (hw : statuses w g = some x) (c : MediaGenerationStatus) :
    (statusBefore g c).run.wp (legal g) (fun r w' => r = .ok (x.1.statusBefore c) ∧ w' = w) w := by
  refine wp_run_seq (wp_getStatus hw) (fun s w' h => ?_) fun e w' h => by cases h.1
  obtain ⟨hs, rfl⟩ := h
  cases hs
  exact ⟨rfl, rfl⟩

/-- A checkpoint may pass or not. -/
theorem wp_checkpoint (hw : statuses w g = some x) (p : MediaGeneration → Bool) :
    (checkpoint g p).run.wp (legal g) (Leaves g x) w :=
  wp_leaves_bind (wp_readRow hw) fun _ _ hw => ⟨rfl, hw⟩

theorem wp_getDecisionContext (hw : statuses w g = some x) :
    (getDecisionContext g).run.wp (legal g) (Leaves g x) w :=
  wp_leaves_bind (wp_readRow hw) fun _ _ hw => ⟨rfl, hw⟩

/-- `generation_status = 'processing'` halts the run, and a missing value is a
decoding error. -/
theorem wp_isProcessing (hw : statuses w g = some x) :
    (isProcessing g).run.wp (legal g) (fun r w' => w' = w ∧
      ((∃ e, r = .error (.database e)) ∧ x.2 = none ∨ ∃ s, x.2 = some s ∧ r = .ok (s == .processing)))
      w := by
  obtain ⟨r, hr, rfl⟩ := Option.map_eq_some_iff.1 hw
  refine wp_run_seq (wp_selectRow (Q := fun a w' => a = .ok (some r) ∧ w' = w) ⟨by rw [hr], rfl⟩)
    (fun a w' h => ?_) fun e w' h => by cases h.1
  obtain ⟨ha, rfl⟩ := h
  cases ha
  dsimp only
  split
  · next s hs => exact ⟨rfl, .inr ⟨s, hs, rfl⟩⟩
  · next hs => exact ⟨rfl, .inl ⟨⟨_, rfl⟩, hs⟩⟩

/-- The answer of an audit transaction reaches the caller. -/
theorem wp_settle {St : OpSpec effects World} (r : Option (Except AuditTrailError Unit))
    {Q : Except AuditTrailError Unit → World → Prop} (h : ∀ e, r = some e → Q e w) :
    (settle r).run.wp St Q w := by
  match r with
  | none => trivial
  | some (.ok ()) => exact h _ rfl
  | some (.error e) => exact h _ rfl

theorem wp_initializeAudit (hw : statuses w g = some x) :
    (initializeAudit g).run.wp (legal g) (Leaves g x) w := by
  obtain ⟨r, hr, rfl⟩ := Option.map_eq_some_iff.1 hw
  refine wp_run_seq (R := fun a w' => a = .ok (some (.ok ())) ∧
    statuses w' g = some (r.status, r.generationStatus)) ((wp_run_mapErr _ _ _ _).2
      (wp_onRow_alone hr trivial (fun now _ _ w' _ hrow => ⟨rfl, ?_⟩) fun _ => not_fault))
    (fun a w' h => ?_) fun e w' h => by cases h.1
  · obtain ⟨p, u, hinit⟩ := initializeRow_eq now r
    rw [statuses, hrow, RowStatement.row, hinit]
    rfl
  · obtain ⟨ha, hs⟩ := h
    cases ha
    exact ⟨rfl, hs⟩

/-- A transition succeeds or is refused, unless it panics. -/
theorem wp_requestTransition {req : World → Operation → Prop} (hw : statuses w g = some x)
    {toStatus : MediaGenerationStatus} {context : Json} {attempt : Int} {jobContext : Option Json}
    (hreq : req w (.query (.onRow g (.transition toStatus (some context) (some attempt) jobContext))))
    {Q : Except WorkflowError Unit → World → Prop}
    (hok : ∀ w', x.1 = toStatus ∨ x.1.canTransition toStatus →
      statuses w' g = some (toStatus, x.2) → Q (.ok ()) w')
    (hrefused : ∀ w', x.1.canTransition toStatus = false → statuses w' g = some x →
      Q (.error (.auditTrail (.invalidTransition x.1 toStatus))) w') :
    (requestTransition g toStatus context attempt jobContext).run.wp (alone req DbSucceeds) Q w := by
  obtain ⟨r, hr, rfl⟩ := Option.map_eq_some_iff.1 hw
  refine (wp_run_mapErr _ _ _ _).2 (wp_run_seq
    (R := fun a w' => a.isOk ∧ ∀ e, a = .ok (some e) → Q (e.mapError .auditTrail) w')
    ((wp_run_mapErr _ _ _ _).2 (wp_onRow_alone hr hreq (fun now replies projectId w' _ hrow => ?_)
      fun _ => not_fault)) (fun a w' h => wp_settle a fun e he => h.2 e (by rw [he]))
    fun e w' h => by cases h.1)
  refine ⟨rfl, fun e he => ?_⟩
  obtain ⟨t, ht, rfl⟩ := Option.map_eq_some_iff.1 (Except.ok.inj he)
  rw [RowStatement.row, ht] at hrow
  cases t with
  | error e =>
    obtain ⟨rfl, _, hno⟩ := transitionRow_error ht
    exact hrefused w' hno (by rw [statuses, hrow]; rfl)
  | ok r' =>
    obtain ⟨hmay, p, rfl⟩ := transitionRow_ok ht
    exact hok w' hmay (by rw [statuses, hrow]; rfl)

/-- A legal transition. -/
theorem wp_legalTransition (hw : statuses w g = some x) {toStatus : MediaGenerationStatus}
    (hmay : x.1.canTransition toStatus) (context : Json) (attempt : Int) (jobContext : Option Json) :
    (requestTransition g toStatus context attempt jobContext).run.wp (legal g)
      (Leaves g (toStatus, x.2)) w := by
  refine wp_requestTransition hw (fun _ r hr => ?_) (fun w' _ hw' => ⟨rfl, hw'⟩)
    fun w' hno _ => by rw [hmay] at hno; cases hno
  rw [statuses, hr] at hw
  cases hw
  exact hmay

theorem wp_resolve {P : Platform} (hw : statuses w g = some x) {interpretation : Json}
    (hobject : interpretation.isObject) (preferred : Option String) (draft : Option Json) :
    (resolve P g interpretation preferred draft).run.wp (legal g) (Leaves g x) w := by
  obtain ⟨r, hr, rfl⟩ := Option.map_eq_some_iff.1 hw
  have hnotNull : (interpretation.isNull || !interpretation.isObject) = false := by
    cases interpretation <;> first | rfl | cases hobject
  unfold resolve
  rw [hnotNull]
  refine (wp_run_bind _ _ _ _).2 ((wp_run_liftM _ _ _).2 ((wp_perform_alone _ _ _).2
    ⟨trivial, fun c _ => ?_⟩))
  refine wp_leaves_bind ((wp_run_mapErr _ _ _ _).2 (wp_onRow_alone hr trivial
    (fun _ _ _ w' _ hrow => ⟨rfl, ?_⟩) fun _ => not_fault)) fun _ w' hw' => ⟨rfl, hw'⟩
  rw [statuses, hrow]
  rfl

/-- A phase that moves the status forward if it has not come this far. -/
theorem wp_advance {cp : MediaGenerationStatus} {p : GatewayResult WorkflowError Unit}
    (hw : statuses w g = some x)
    (hp : x.1.statusBefore cp → p.run.wp (legal g) (Leaves g (cp, x.2)) w) :
    (do if ← statusBefore g cp then p else pure () : GatewayResult WorkflowError Unit).run.wp
      (legal g) (Leaves g (x.1.advance cp, x.2)) w := by
  refine wp_run_seq (wp_statusBefore hw cp) (fun b w' h => ?_) fun _ _ h => by cases h.1
  obtain ⟨hb, rfl⟩ := h
  obtain rfl := Except.ok.inj hb
  unfold MediaGenerationStatus.advance
  split
  · next hbefore => exact hp hbefore
  · exact ⟨rfl, hw⟩

/-! ## The step callbacks -/

/-- The step callbacks keep the two status columns, request no illegal
transition, and interpret a prompt as an object. -/
structure StepsKeep (steps : Steps) (g : Uuid) : Prop where
  interpret : ∀ w x, statuses w g = some x → (steps.interpret g).run.wp (legal g)
    (fun r w' => statuses w' g = some x ∧ ∀ json, r = .ok json → json.isObject) w
  draft : ∀ w x, statuses w g = some x →
    (steps.draft g).run.wp (legal g) (fun _ w' => statuses w' g = some x) w
  submitJob : ∀ jobId w x, statuses w g = some x →
    (steps.submitJob g jobId).run.wp (legal g) (fun _ w' => statuses w' g = some x) w
  publish : ∀ w x, statuses w g = some x →
    (steps.publish g).run.wp (legal g) (fun _ w' => statuses w' g = some x) w
  compose : ∀ w x, statuses w g = some x →
    (steps.compose g).run.wp (legal g) (fun _ w' => statuses w' g = some x) w

/-- The step callbacks, in the runs in which they succeed. -/
def succeeding (steps : Steps) : Steps where
  interpret g := onSuccess (steps.interpret g)
  draft g := onSuccess (steps.draft g)
  submitJob g jobId := onSuccess (steps.submitJob g jobId)
  publish g := onSuccess (steps.publish g)
  compose g := onSuccess (steps.compose g)

/-- A callback that succeeds. -/
theorem wp_onSuccess {α : Type} {p : GatewayResult WorkflowError α}
    (hp : p.run.wp (legal g) (fun _ w' => statuses w' g = some x) w) :
    (onSuccess p : GatewayResult WorkflowError α).run.wp (legal g) (Leaves g x) w :=
  (wp_run_onSuccess _ _ _).2 (wp_mono (fun _ _ h _ _ => ⟨rfl, h⟩) hp)

/-- The calls of the step callbacks, whichever it is. -/
def AnyStepCall (g : Uuid) (o : Operation) : Prop :=
  DeliverCall StepStatement g o ∨ ∃ jobId, SubmitCall g jobId o

theorem AnyStepCall.statement {id : Uuid} {st : RowStatement}
    (h : AnyStepCall g (.query (.onRow id st))) : StepStatement st := by
  obtain ((h | h) | h) | ⟨_, h | ⟨_, h, _⟩⟩ := h
  · exact h.2
  all_goals cases h

/-- A call of a step callback requests no transition. -/
theorem legalAt_of_anyStepCall {o : Operation} (ho : AnyStepCall g o) : LegalAt g w o := by
  cases o with
  | query q =>
    cases q with
    | onRow id st =>
      cases st with
      | transition toStatus context attempt jobContext => cases ho.statement
      | _ => trivial
    | _ => trivial
  | _ => trivial

/-- A call of a step callback keeps the two status columns. -/
theorem statuses_exec {o : Operation} (ho : AnyStepCall g o) (hw : statuses w g = some x)
    (c : Choice) : statuses (o.exec w c).2 g = some x := by
  obtain ⟨r, hr, rfl⟩ := Option.map_eq_some_iff.1 hw
  obtain h | ⟨st, rfl, h⟩ := o.exec_row c hr
  · exact Option.map_eq_some_iff.2 ⟨r, h, rfl⟩
  · refine Option.map_eq_some_iff.2 ⟨_, h, ?_⟩
    have hst : StepStatement st := ho.statement
    cases st with
    | update u => cases u <;> first | rfl | cases hst
    | publish topicId contentId =>
      obtain h | ⟨_, h, _⟩ | ⟨_, _, h, _⟩ | ⟨_, _, _, _, _, h, _⟩ |
        ⟨_, _, _, _, _, _, _, _, h, _⟩ | ⟨_, _, _, _, _, _, _, _, h⟩ :=
          RowStatement.row_cases c.clock c.publication w.db.nextProjectId r
            (.publish topicId contentId)
      · rw [h]
      · cases h
      · cases h
      · cases h
      · cases h
      · rw [h]
    | _ => cases hst

/-- A program of such calls keeps the two status columns. -/
theorem wp_keep {α : Type} {p : Gateway α} (hp : OnlyCalls (AnyStepCall g) p)
    (hw : statuses w g = some x) : p.wp (legal g) (fun _ w' => statuses w' g = some x) w :=
  wp_keeps hp hw (fun _ _ ho => legalAt_of_anyStepCall ho)
    fun _ _ c ho hw => statuses_exec ho hw c

/-- The callbacks of the worker. -/
theorem stepsKeep_workerSteps (P : Platform) (url : String) (g : Uuid) :
    StepsKeep (workerSteps P url) g := by
  have hstep (o : Operation) (h : StepCall ClassifyStatement g o) : AnyStepCall g o :=
    .inl (.inl (h.imp_left (RowCall.mono ClassifyStatement.step o)))
  exact {
    interpret := fun w x hw => by
      refine wp_of_returns (wp_keep ((only_interpretStep fun _ _ _ => trivial).mono hstep) hw) ?_
      exact returns_run_bind _ fun _ => returns_run_bind _ fun _ => returns_run_bind _ fun _ =>
        returns_run_bind _ fun result => returns_run_bind _ fun _ => fun json h => by
          cases h
          exact result.interpretationPayload.isObject
    draft := fun w x hw => wp_keep (only_draftStep.mono hstep) hw
    submitJob := fun jobId w x hw => wp_keep
      (safe_run_mapErr ((only_submitJob url jobId).mono fun _ h => .inr ⟨jobId, h⟩)) hw
    publish := fun w x hw => wp_keep ((only_publishStep fun _ _ => trivial).mono fun _ => .inl) hw
    compose := fun w x hw => wp_keep
      ((only_composeStep fun _ => trivial).mono fun _ h => .inl (.inl h)) hw }

theorem wp_onSuccess_interpret {steps : Steps} (hsteps : StepsKeep steps g)
    (hw : statuses w g = some x) :
    ((succeeding steps).interpret g).run.wp (legal g)
      (fun r w' => Leaves g x r w' ∧ ∀ json, r = .ok json → json.isObject) w := by
  refine (wp_run_onSuccess _ _ _).2 (wp_mono (fun r w' h json hjson => ?_)
    (hsteps.interpret w x hw))
  refine ⟨⟨rfl, h.1⟩, fun json' he => ?_⟩
  cases he
  exact h.2 json hjson

/-! ## The phases -/

section Phases

variable {P : Platform} {steps : Steps} (hsteps : StepsKeep steps g) {attempt : Int}
  {jobContext : Option Json}
include hsteps

theorem wp_classify (hw : statuses w g = some x) :
    (classify P (succeeding steps) g).run.wp (legal g) (Leaves g x) w := by
  refine wp_run_seq (wp_onSuccess_interpret hsteps hw) (fun json w hw => ?_)
    fun _ _ h => by cases h.1.1
  obtain ⟨⟨_, hw⟩, hjson⟩ := hw
  have hobject : json.isObject := hjson json rfl
  exact wp_leaves_bind (wp_readRow hw) fun _ _ hw =>
    wp_leaves_bind (wp_leaves_mapErr (wp_resolve hw hobject _ _)) fun _ w hw =>
      wp_leaves_bind (wp_onSuccess (hsteps.draft w x hw)) fun _ _ hw =>
        wp_leaves_bind (wp_leaves_mapErr (wp_resolve hw hobject _ _)) fun _ _ hw => ⟨rfl, hw⟩

theorem wp_classifyOnce (hw : statuses w g = some x) :
    (classifyOnce P (succeeding steps) g).run.wp (legal g) (Leaves g x) w := by
  refine wp_leaves_bind (wp_checkpoint hw _) fun b _ hw => ?_
  split
  · exact ⟨rfl, hw⟩
  · exact wp_classify hsteps hw

/-- `ensure_classified` ends in `classified`, or leaves a later status alone. -/
theorem wp_ensureClassified {s : MediaGenerationStatus} {gs : Option GenerationStatus}
    (hw : statuses w g = some (s, gs)) (hs : s.isEarly) :
    (ensureClassified P (succeeding steps) g attempt jobContext).run.wp (legal g)
      (Leaves g (s.advance .classified, gs)) w := by
  rw [← s.advance_interpreting hs]
  exact wp_leaves_bind (wp_advance hw fun hb =>
      wp_legalTransition hw (s.canTransition_interpreting hs hb) _ _ _) fun _ w hw =>
    wp_leaves_bind (wp_classifyOnce hsteps hw) fun _ w hw =>
      wp_advance hw fun hb => wp_leaves_bind (wp_getDecisionContext hw) fun _ w hw =>
        wp_legalTransition hw (s.canTransition_classified hs hb) _ _ _

/-- `ensure_generated` ends in `generating`, with the job in progress if there
is one. -/
theorem wp_ensureGenerated {s : MediaGenerationStatus} {gs : Option GenerationStatus}
    (hw : statuses w g = some (s.advance .classified, gs)) (hs : s.isEarly) (jobId : Option Uuid) :
    (ensureGenerated (succeeding steps) g jobId attempt jobContext).run.wp (legal g)
      (Leaves g (.generating, if jobId.isSome then some .processing else gs)) w := by
  refine wp_leaves_bind (wp_advance hw fun hb => wp_leaves_bind (wp_readRow hw) fun _ w hw =>
    wp_legalTransition hw (s.canTransition_generating hs hb) _ _ _) fun _ w hw => ?_
  rw [s.advance_classified hs] at hw
  cases jobId with
  | none => exact ⟨rfl, hw⟩
  | some jobId =>
    refine wp_leaves_bind (wp_onSuccess (hsteps.submitJob jobId w _ hw)) fun _ w hw => ?_
    obtain ⟨r, hr, he⟩ := Option.map_eq_some_iff.1 hw
    refine wp_leaves_bind (wp_leaves_mapErr (wp_onRow_alone hr trivial
      (fun _ _ _ w' _ hrow => ⟨rfl, ?_⟩) fun _ => not_fault)) fun _ w hw => ⟨rfl, hw⟩
    rw [statuses, hrow]
    exact congrArg (fun s => some (s, some GenerationStatus.processing)) (Prod.mk.inj he).1

/-- Up to the submission a run requests legal transitions only, and it comes
to `deliver` in `generating`. -/
theorem wp_process {req : World → Operation → Prop} (hreq : ∀ w o, LegalAt g w o → req w o)
    {s : MediaGenerationStatus} {gs : Option GenerationStatus}
    (hw : statuses w g = some (s, gs)) (hs : s.isEarly) (P : Platform) (jobId : Option Uuid)
    (attempt : Option Int) (jobContext : Option Json) {Q : Except WorkflowError Unit → World → Prop}
    (hdeliver : ∀ w',
      statuses w' g = some (.generating, if jobId.isSome then some .processing else gs) →
      (deliver (succeeding steps) g (attempt.getD 1) jobContext).run.wp (alone req DbSucceeds) Q w') :
    (process P (succeeding steps) g jobId attempt jobContext).run.wp (alone req DbSucceeds) Q w := by
  refine wp_leaves_bind (wp_leaves_mapErr (wp_alone_mono hreq (wp_initializeAudit hw)))
    fun _ w hw => wp_run_seq (wp_alone_mono hreq (wp_getStatus hw)) (fun s' w' h => ?_)
      fun _ _ h => by cases h.1
  obtain ⟨hs', rfl⟩ := h
  cases hs'
  rw [MediaGenerationStatus.isTerminal_of_isEarly hs]
  exact wp_leaves_bind (wp_alone_mono hreq
      (wp_timedStep (fun _ _ => trivial) (wp_ensureClassified hsteps hw hs))) fun _ w hw =>
    wp_leaves_bind (wp_alone_mono hreq
      (wp_timedStep (fun _ _ => trivial) (wp_ensureGenerated hsteps hw hs jobId))) fun _ w hw =>
      hdeliver w hw

omit hsteps in
/-- A job in progress halts the run. -/
theorem wp_deliver_halts {s : MediaGenerationStatus}
    (hw : statuses w g = some (s, some .processing)) :
    (deliver (succeeding steps) g attempt jobContext).run.wp (legal g)
      (Leaves g (s, some .processing)) w := by
  refine wp_run_seq (wp_isProcessing hw) (fun b w' h => ?_) fun e w' h => ?_
  · obtain ⟨rfl, ⟨⟨_, he⟩, _⟩ | ⟨_, hgs, hb⟩⟩ := h
    · cases he
    · cases hgs
      cases hb
      exact ⟨rfl, hw⟩
  · obtain ⟨_, ⟨_, hgs⟩ | ⟨_, _, he⟩⟩ := h
    · cases hgs
    · cases he

/-- The next transition from `generating` is refused. -/
def Refused (r : Except WorkflowError Unit) (_ : World) : Prop :=
  ∃ toStatus, r = .error (.auditTrail (.invalidTransition .generating toStatus))

/-- The specification that says what a run does without any obligation. -/
abbrev free : OpSpec effects World := alone FreeCall DbSucceeds

omit hsteps in
/-- A transition that the matrix does not have. -/
theorem wp_refused {gs : Option GenerationStatus} (hw : statuses w g = some (.generating, gs))
    {cp : MediaGenerationStatus} (hne : MediaGenerationStatus.generating ≠ cp)
    (hcp : MediaGenerationStatus.generating.canTransition cp = false) (context : Json) :
    (requestTransition g cp context attempt jobContext).run.wp free Refused w := by
  refine wp_requestTransition hw trivial (fun _ hmay _ => ?_) fun _ _ _ => ⟨cp, rfl⟩
  obtain h | h := hmay
  · exact absurd h hne
  · rw [hcp] at h
    cases h

/-- Publication entities that are there already lead to a refused transition;
otherwise the publish callback leaves the status alone. -/
theorem wp_ensurePublished {gs : Option GenerationStatus}
    (hw : statuses w g = some (.generating, gs)) :
    (ensurePublished (succeeding steps) g attempt jobContext).run.wp free
      (fun r w' => Refused r w' ∨ Leaves g (.generating, gs) r w') w := by
  refine wp_leaves_bind (wp_free (wp_checkpoint hw _)) fun b w hw => ?_
  split
  · refine wp_run_seq (wp_free (wp_statusBefore hw _)) (fun b w' h => ?_) fun _ _ h => by cases h.1
    obtain ⟨hb, rfl⟩ := h
    cases hb
    exact wp_mono (fun _ _ => .inl) (wp_refused hw (by decide) rfl _)
  · exact wp_leaves_bind (wp_free (wp_onSuccess (hsteps.publish w _ hw)))
      fun _ _ hw => .inr ⟨rfl, hw⟩

/-- The completion is refused. -/
theorem wp_ensureCompleted {gs : Option GenerationStatus}
    (hw : statuses w g = some (.generating, gs)) :
    (ensureCompleted (succeeding steps) g attempt jobContext).run.wp free Refused w := by
  have hcompose : (composeOnce (succeeding steps) g).run.wp (legal g)
      (Leaves g (.generating, gs)) w := by
    refine wp_leaves_bind (wp_checkpoint hw _) fun b w hw => ?_
    split
    · exact ⟨rfl, hw⟩
    · exact wp_leaves_bind (wp_onSuccess (hsteps.compose w _ hw)) fun _ _ hw => ⟨rfl, hw⟩
  refine wp_leaves_bind (wp_free hcompose) fun _ w hw =>
    wp_run_seq (wp_free (wp_statusBefore hw _)) (fun b w' h => ?_) fun _ _ h => by cases h.1
  obtain ⟨hb, rfl⟩ := h
  cases hb
  exact wp_leaves_bind (wp_free (wp_readRow hw)) fun _ w hw => wp_refused hw (by decide) rfl _

/-- Without a job in progress the run does not get past `generating`: it is
refused, or the generation status cannot be read. -/
theorem wp_deliver_refused {gs : Option GenerationStatus}
    (hw : statuses w g = some (.generating, gs)) (hgs : gs ≠ some .processing) :
    (deliver (succeeding steps) g attempt jobContext).run.wp free
      (fun r w' => Refused r w' ∨ statuses w' g = some (.generating, gs)) w := by
  refine wp_run_seq (wp_free (wp_isProcessing hw)) (fun b w' h => ?_) fun _ _ h => .inr (h.1 ▸ hw)
  obtain ⟨rfl, ⟨⟨_, he⟩, _⟩ | ⟨s, rfl, hb⟩⟩ := h
  · cases he
  cases hb
  have hne : (s == .processing) = false := by
    simpa using fun h => hgs (congrArg some h)
  rw [hne]
  refine wp_run_seq (wp_timedStep (fun _ _ => trivial) (wp_ensurePublished hsteps hw))
    (fun _ w' h => ?_) fun e w' h => ?_
  · obtain ⟨_, he⟩ | ⟨_, hw⟩ := h
    · cases he
    · exact wp_mono (fun _ _ => .inl)
        (wp_timedStep (fun _ _ => trivial) (wp_ensureCompleted hsteps hw))
  · obtain h | ⟨he, _⟩ := h
    · exact .inl h
    · cases he

end Phases

/-! ## A whole run -/

/-- The run is at its end: the generation is completed, or its render job is in
progress. -/
def Finished (g : Uuid) (w : World) : Prop :=
  ∃ s gs, statuses w g = some (s, gs) ∧ (s = .completed ∨ gs = some .processing)

/-- What is expected of a run of `process`. -/
structure Meets (g : Uuid) (out : Outcome machine (Except WorkflowError Unit)) : Prop where
  /-- Every requested transition is an edge of the matrix. -/
  legal : ∀ c ∈ out.calls, LegalAt g c.before c.op
  /-- No transition is refused. -/
  accepted : ∀ s t, out.result ≠ some (.error (.auditTrail (.invalidTransition s t)))
  /-- A run that returns is at its end. -/
  finished : out.result.isSome → Finished g out.world

/-- A run of `process` alone, on a reachable row that is not terminal, with
step callbacks and database calls that succeed.  With a job id, or when the row
is `processing` already, it meets what is expected; otherwise it does not, if it
returns at all.  A run does not return when it panics. -/
theorem process_meets_iff {A : AppState} {ok : (system A).State → (system A).Action → Prop}
    {s : (system A).State} (hs : Reachable A ok s) {r : MediaGeneration}
    (hr : s.world.db.row g = some r) (hopen : r.status.isTerminal = false) {steps : Steps}
    (hsteps : StepsKeep steps g) {P : Platform} {jobId : Option Uuid} {attempt : Option Int}
    {jobContext : Option Json} {env : Nat → Choice}
    {out : Outcome machine (Except WorkflowError Unit)}
    (hout : out = (process P (succeeding steps) g jobId attempt jobContext).run.run machine env
      s.world)
    (hdb : ∀ c ∈ out.calls, DbSucceeds c.before c.op c.choice) :
    (jobId.isSome ∨ r.generationStatus = some .processing → Meets g out) ∧
    (out.result.isSome → Meets g out → jobId.isSome ∨ r.generationStatus = some .processing) := by
  have hearly : r.status.isEarly := by
    obtain h | h := ((rowsOk_of_reachable hs).row r (Table.find_mem hr)).status
    · exact h
    · rw [h] at hopen
      cases hopen
  have hw : statuses s.world g = some (r.status, r.generationStatus) :=
    Option.map_eq_some_iff.2 ⟨r, hr, rfl⟩
  subst hout
  constructor
  · intro hyes
    have hgs : (if jobId.isSome then some .processing else r.generationStatus) =
        some GenerationStatus.processing := by
      split
      · rfl
      · next hjob => exact hyes.resolve_left hjob
    obtain ⟨hlegal, hend⟩ := Machine.run_of_wp (wp_process hsteps (fun _ _ h => h) hw hearly P jobId
      attempt jobContext fun w' hw' => wp_deliver_halts (hgs ▸ hw')) hdb
    refine ⟨hlegal, fun s t he => ?_, fun hreturns => ?_⟩
    · cases (hend _ he).1
    · obtain ⟨res, hres⟩ := Option.isSome_iff_exists.1 hreturns
      exact ⟨_, _, (hend res hres).2, .inr rfl⟩
  · intro hreturns hmeets
    obtain ⟨res, hres⟩ := Option.isSome_iff_exists.1 hreturns
    by_contra hno
    rw [not_or] at hno
    obtain ⟨hjob, hgs⟩ := hno
    have hend := Machine.result_of_wp (wp_process hsteps (fun _ _ _ => trivial) hw hearly P jobId
      attempt jobContext fun w' hw' => by
        rw [if_neg hjob] at hw'
        exact wp_deliver_refused hsteps hw' hgs) hdb hres
    obtain ⟨toStatus, rfl⟩ | hstill := hend
    · exact hmeets.accepted _ _ hres
    · obtain ⟨s', gs, hfin, h⟩ := hmeets.finished hreturns
      rw [hstill] at hfin
      cases hfin
      obtain h | h := h
      · cases h
      · exact hgs h

/-- Every call succeeds, and the artifact is a zip archive. -/
def zipArtifact : Choice :=
  { fine with publication := { artifact := .ok (200, [0x50, 0x4B, 0x03, 0x04]) } }

/-- A request whose render job is completed, with the object stored. -/
def artifactStored : List ((system sampleGateway).Action) :=
  requestRead ++ calls 2 33 ++
  [.arrive (.callback { completedCallback with s3ObjectKey := some "jobs/1.pptx" })] ++ calls 3 5

/-- A run of the worker's steps for the sample generation. -/
def sampleRun (jobId : Option Uuid) (w : World) : Outcome machine (Except WorkflowError Unit) :=
  (process asciiPlatform (succeeding (workerSteps asciiPlatform "http://gateway")) ⟨0⟩ jobId
    (some 1) none).run.run machine (fun _ => zipArtifact) w

/-- Whether a run ends with a refused transition. -/
def isRefused : Option (Except WorkflowError Unit) → Bool
  | some (.error (.auditTrail (.invalidTransition _ _))) => true
  | _ => false

/-- A run without a job id for a generation whose artifact is stored publishes
it and asks for `completed`, which is refused. -/
theorem process_refused :
    ∃ (s : (system sampleGateway).State) (r : MediaGeneration),
      Reachable sampleGateway (fun _ _ => True) s ∧ s.world.db.row ⟨0⟩ = some r ∧
      r.status.isTerminal = false ∧ (sampleRun none s.world).result.isSome ∧
      ¬ Meets ⟨0⟩ (sampleRun none s.world) := by
  have hplay : ((Pool.play (fun _ _ => True) ((system sampleGateway).start sampleWorld)
      artifactStored).map fun s => ((s.world.db.row ⟨0⟩).map fun r => r.status.isTerminal,
        isRefused (sampleRun none s.world).result)) = some (some false, true) := by
    decide +kernel
  obtain ⟨s, hs, he⟩ := Pool.exists_of_play hplay
  obtain ⟨hrow, hrefused⟩ := Prod.mk.inj he
  obtain ⟨r, hr, hopen⟩ := Option.map_eq_some_iff.1 hrow
  refine ⟨s, r, ⟨_, initial_sampleWorld, hs⟩, hr, hopen, ?_, fun hmeets => ?_⟩
  · cases h : (sampleRun none s.world).result with
    | none =>
      rw [h] at hrefused
      cases hrefused
    | some res => rfl
  · unfold isRefused at hrefused
    split at hrefused
    · next h => exact hmeets.accepted _ _ h
    · cases hrefused

/-- The run for the message of a new request meets what is expected. -/
theorem process_meets_iff_newRequest :
    ∃ s : (system sampleGateway).State, Meets ⟨0⟩ (sampleRun (some ⟨1⟩) s.world) := by
  have hplay : ((Pool.play (fun _ _ => True) ((system sampleGateway).start sampleWorld)
      requestRead).map fun s => (s.world.db.row ⟨0⟩).map fun r => r.status.isTerminal) =
      some (some false) := by
    decide +kernel
  obtain ⟨s, hs, he⟩ := Pool.exists_of_play hplay
  obtain ⟨r, hr, hopen⟩ := Option.map_eq_some_iff.1 he
  exact ⟨s, (process_meets_iff ⟨_, initial_sampleWorld, hs⟩ hr hopen
    (stepsKeep_workerSteps asciiPlatform "http://gateway" ⟨0⟩) rfl
    (dbSucceeds_of_fault _ (fun _ => rfl) _)).1 (.inl rfl)⟩

end KlassGateway
