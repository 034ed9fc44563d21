import KlassGateway.Guarantees.TaskCommands
import KlassGateway.Queue.DeadLetterRetry
/-!
# What becomes of a retried dead letter

`retry_from_dlq` puts the generation of a dead letter back into the job stream,
without a job id.  `send_to_dlq` has marked its row failed, which is a terminal
status, and `process` returns at once for terminal rows; and without a job id
`ensure_generated` submits nothing.

* `retry_executes_iff`: a run for the message of a retry does its work exactly
  when it finds the row open and does not get as far as the generation.

A run of a worker is taken among everything else that may happen: between two
calls the world may change in any way.
-/

namespace KlassGateway

open Lib Lib.Prog Db Orchestrator Queue Api

/-! ## The retry -/

/-- The calls that leave the job stream alone. -/
def SparesJobs : RetryOperation → Prop
  | .command .connect => True
  | .command _ => False
  | _ => True

/-- The machine of a retry, with any answers. -/
abbrev anyRetry : OpSpec retryEffects Redis :=
  Machine.spec retryMachine (fun _ _ => True) fun _ _ _ => True

theorem only_deleteDlqEntry (g : Uuid) : Only SparesJobs (deleteDlqEntry g).run := by
  have hall (ids : List Nat) : Only SparesJobs (deleteAll ids) := by
    induction ids with
    | nil => exact safe_ret _
    | cons id ids ih => exact safe_bind (only_perform (I := retryEffects) trivial) fun _ => ih
  refine safe_run_bind (only_perform (I := retryEffects) trivial) fun _ =>
    safe_run_bind (only_perform (I := retryEffects) trivial) fun entries => ?_
  dsimp only
  split
  · exact safe_run_pure _
  · exact safe_run_bind (safe_run_liftM (hall _)) fun _ => safe_run_pure _

/-- A call that spares the job stream leaves it as it is. -/
theorem jobs_exec {o : RetryOperation} (h : SparesJobs o) (r : Redis) (c : Choice) :
    (o.exec r c).2.jobs = r.jobs := by
  cases o with
  | command cmd =>
    cases cmd with
    | connect => simp only [RetryOperation.exec, withFault, Command.exec]; cases c.fault <;> rfl
    | _ => cases h
  | now => rfl
  | xrangeDlq => simp only [RetryOperation.exec, withFault]; cases c.fault <;> rfl
  | xdelDlq id => simp only [RetryOperation.exec, withFault]; cases c.fault <;> rfl

/-- The answer of a command comes from one choice. -/
theorem wp_retryCommand (cmd : Command) (Q : Except String cmd.Resp → Redis → Prop) (r : Redis) :
    (retryCommand cmd).run.wp anyRetry Q r ↔
      ∀ c, Q (RetryOperation.exec r (.command cmd) c).1 (RetryOperation.exec r (.command cmd) c).2 :=
  (and_iff_right trivial).trans <|
    (Machine.forall_spec_step (M := retryMachine)).trans <| forall_congr' fun _ => true_imp_iff

/-- A retry that returns `Ok(true)` has appended its message. -/
theorem wp_retryFromDlq (g : Uuid) (r : Redis) :
    (retryFromDlq g).run.wp anyRetry
      (fun a w => a = .ok true → ∃ now, w.jobs = (r.jobs.add (retryMessage g now)).2) r := by
  have hspared {α : Type} {p : Prog retryEffects α} (hp : Only SparesJobs p) {w : Redis}
      (hw : w.jobs = r.jobs) : p.wp anyRetry (fun _ w => w.jobs = r.jobs) w := by
    refine hp.wp_pre hw fun w o hw ho => ⟨trivial, ?_⟩
    rintro answer w' ⟨c, -, he⟩
    obtain rfl : (o.exec w c).2 = w' := congrArg Prod.snd he
    exact (jobs_exec ho w c).trans hw
  refine wp_run_seq (hspared (only_deleteDlqEntry g) rfl) (fun deleted w hw => ?_)
    fun e w _ h => by cases h
  cases deleted with
  | false => exact fun h => by cases h
  | true =>
    refine wp_run_seq (hspared (only_perform (I := retryEffects) (o := .command .connect) trivial) hw)
      (fun _ w hw => ?_) fun e w _ h => by cases h
    refine (wp_run_bind _ _ _ _).2 ((wp_run_liftM _ _ _).2 (wp_mono (fun now w hw => ?_)
      (hspared (only_perform (I := retryEffects) (o := .now) trivial) hw)))
    refine (wp_run_bind _ _ _ _).2 ((wp_retryCommand _ _ _).2 fun c => ?_)
    simp only [RetryOperation.exec, withFault]
    cases c.fault with
    | none => exact fun _ => ⟨now, congrArg (fun jobs : Stream JobMessage =>
        (jobs.add (retryMessage g now)).2) hw⟩
    | failed m => exact fun h => by cases h
    | lost m => exact fun h => by cases h

/-- The message of a retry is the last one of the stream. -/
theorem retry_enqueues {g : Uuid} {r : Redis} {env : Nat → Choice}
    (h : ((retryFromDlq g).run.run retryMachine env r).result = some (.ok true)) :
    ∃ now, ((retryFromDlq g).run.run retryMachine env r).world.jobs.entries =
      r.jobs.entries ++ [⟨r.jobs.lastId + 1, retryMessage g now⟩] := by
  obtain ⟨now, hjobs⟩ := Machine.result_of_wp (wp_retryFromDlq g r) (fun _ _ => trivial) h rfl
  exact ⟨now, by rw [hjobs]; rfl⟩

/-! ## The run -/

variable {g : Uuid} {env : Nat → World × Choice}

/-- The calls of an outcome. -/
def callsOf {α : Type} (out : Outcome machine.interleaved α) : List Operation :=
  out.calls.map Call.op

/-- The calls that a program makes among everything else. -/
def callsAmong {α : Type} (p : Gateway α) (env : Nat → World × Choice) : List Operation :=
  callsOf (p.run machine.interleaved env ())

section Sequence

variable {α β ε : Type} {p : Prog effects α}

theorem callsAmong_bind_of_result {a : α}
    (h : (p.run machine.interleaved env ()).result = some a) (f : α → Gateway β) :
    callsAmong (p.bind f) env = callsAmong p env ++
      callsAmong (f a) fun n => env (n + (callsAmong p env).length) := by
  have hlength : (callsAmong p env).length = (p.run machine.interleaved env ()).calls.length :=
    List.length_map ..
  rw [hlength]
  exact (congrArg callsOf (run_bind_of_result h f)).trans List.map_append

theorem callsAmong_bind_of_none (h : (p.run machine.interleaved env ()).result = none)
    (f : α → Gateway β) : callsAmong (p.bind f) env = callsAmong p env :=
  congrArg callsOf (run_bind_of_none h f)

/-- `?` after a success. -/
theorem callsAmong_bind_ok {p : GatewayResult ε α} {a : α}
    (h : (p.run.run machine.interleaved env ()).result = some (.ok a)) (f : α → GatewayResult ε β) :
    callsAmong (p >>= f).run env = callsAmong p.run env ++
      callsAmong (f a).run fun n => env (n + (callsAmong p.run env).length) :=
  callsAmong_bind_of_result h _

/-- `?` after an error. -/
theorem callsAmong_bind_error {p : GatewayResult ε α} {e : ε}
    (h : (p.run.run machine.interleaved env ()).result = some (.error e)) (f : α → GatewayResult ε β) :
    callsAmong (p >>= f).run env = callsAmong p.run env :=
  congrArg callsOf (run_run_bind_error h f)

end Sequence

theorem of_mem_callsAmong {α : Type} {φ : Operation → Prop} {p : Gateway α} (hp : OnlyCalls φ p)
    {o : Operation} (ho : o ∈ callsAmong p env) : φ o := by
  let owes : OpSpec effects Unit :=
    Machine.spec machine.interleaved (fun _ => φ) fun _ _ _ => True
  have hwp : p.wp owes (fun _ _ => True) () := hp.safe (fun _ ho _ => ho) ()
  obtain ⟨c, hc, rfl⟩ := List.mem_map.1 ho
  exact (Machine.run_of_wp hwp fun _ _ => trivial).1 c hc

/-- The first call of a run finds the row, and the second finds it open. -/
structure FindsOpen (g : Uuid) (env : Nat → World × Choice) : Prop where
  initialized : (env 0).2.fault = .none ∧ ((env 0).1.db.row g).isSome
  read : (env 1).2.fault = .none
  isOpen : ∃ r, (env 1).1.db.row g = some r ∧ r.status.isTerminal = false

/-- The program makes one call, and then it has a result. -/
structure Answers {ε α : Type} (p : GatewayResult ε α) (env : Nat → World × Choice)
    (o : Operation) (r : Except ε α) : Prop where
  calls : callsAmong p.run env = [o]
  result : (p.run.run machine.interleaved env ()).result = some r

/-- A program that ends with the answer of a database call. -/
theorem answers_query {ε α : Type} {q : Query} {answer : Except SqlxError q.Resp}
    (h : (Operation.exec (env 0).1 (.query q) (env 0).2).1 = answer)
    {k : Except SqlxError q.Resp → Gateway (Except ε α)} {r : Except ε α} (hk : k answer = .ret r) :
    Answers (ExceptT.mk (.op (.query q) k)) env (.query q) r := by
  have hanswer : (machine.interleaved.exec () (.query q) (env 0)).1 = answer := h
  have hrun := run_op_of_answer hanswer k
  rw [hk] at hrun
  exact ⟨congrArg callsOf hrun, congrArg Outcome.result hrun⟩

/-- A database call answers what the database says, or an error. -/
theorem answer_query (q : Query) (w : World) (c : Choice) :
    (c.fault = .none ∧
      (Operation.exec w (.query q) c).1 = (q.exec c.clock c.publication w.db).1) ∨
    (c.fault ≠ .none ∧ ∃ e, (Operation.exec w (.query q) c).1 = .error e) := by
  simp only [Operation.exec, withFault]
  cases c.fault with
  | none => exact .inl ⟨rfl, rfl⟩
  | failed m => exact .inr ⟨Fault.noConfusion, .other m, rfl⟩
  | lost m => exact .inr ⟨Fault.noConfusion, .other m, rfl⟩

/-- `initialize` succeeds on a row that is there. -/
theorem answers_initializeAudit (g : Uuid) (env : Nat → World × Choice) :
    ∃ r : Except AuditTrailError Unit,
      Answers (initializeAudit g) env (.query (.onRow g .initializeAudit)) r ∧
      (r = .ok () ↔ (env 0).2.fault = .none ∧ ((env 0).1.db.row g).isSome) := by
  obtain ⟨hfault, h⟩ | ⟨hfault, e, h⟩ :=
    answer_query (.onRow g .initializeAudit) (env 0).1 (env 0).2
  · cases hrow : (env 0).1.db.row g with
    | some row =>
      have hok : (Query.exec (env 0).2.clock (env 0).2.publication (env 0).1.db
          (.onRow g .initializeAudit)).1 = .ok (some (.ok ())) := by
        simp only [Query.exec, hrow]
        rfl
      exact ⟨.ok (), answers_query (h.trans hok) rfl, by simp [hfault]⟩
    | none =>
      have hmissing : (Query.exec (env 0).2.clock (env 0).2.publication (env 0).1.db
          (.onRow g .initializeAudit)).1 = .ok (some (.error (.notFound g))) := by
        simp only [Query.exec, hrow]
        rfl
      exact ⟨.error (.notFound g), answers_query (h.trans hmissing) rfl, by simp⟩
  · exact ⟨.error (.database e), answers_query h rfl, by simp [hfault]⟩

/-- `get_status` reads the status of a row that is there. -/
theorem answers_getStatus (g : Uuid) (env : Nat → World × Choice) :
    ∃ r : Except WorkflowError MediaGenerationStatus,
      Answers (getStatus g) env (.query (.findById g)) r ∧
      ∀ status, r = .ok status ↔
        (env 0).2.fault = .none ∧ ∃ row, (env 0).1.db.row g = some row ∧ row.status = status := by
  obtain ⟨hfault, h⟩ | ⟨hfault, e, h⟩ := answer_query (.findById g) (env 0).1 (env 0).2
  · cases hrow : (env 0).1.db.row g with
    | some row =>
      have hok : (Query.exec (env 0).2.clock (env 0).2.publication (env 0).1.db
          (.findById g)).1 = .ok (some row) := by simp only [Query.exec, hrow]
      exact ⟨.ok row.status, answers_query (h.trans hok) rfl, by simp [hfault]⟩
    | none =>
      have hmissing : (Query.exec (env 0).2.clock (env 0).2.publication (env 0).1.db
          (.findById g)).1 = .ok none := by simp only [Query.exec, hrow]
      exact ⟨.error (.notFound g), answers_query (h.trans hmissing) rfl, by simp⟩
  · exact ⟨.error (.database e), answers_query h rfl, by simp [hfault]⟩

theorem Answers.mapErr {ε ε' α : Type} {p : GatewayResult ε α} {o : Operation} {r : Except ε α}
    (h : Answers p env o r) (f : ε → ε') : Answers (mapErr f p) env o (r.mapError f) :=
  ⟨(congrArg callsOf (run_run_mapErr f p)).trans h.calls,
    (congrArg Outcome.result (run_run_mapErr f p)).trans (congrArg (Option.map _) h.result)⟩

section Process

variable (P : Platform) (steps : Steps) (jobId : Option Uuid) (jobContext : Option Json)

/-- A run that finds its row open goes through the phases. -/
theorem callsAmong_process_of_open (attempt : Option Int) (h : FindsOpen g env) :
    callsAmong (process P steps g jobId attempt jobContext).run env =
      .query (.onRow g .initializeAudit) :: .query (.findById g) ::
        callsAmong (runPhases P steps g jobId (attempt.getD 1) jobContext).run
          fun n => env (n + 2) := by
  obtain ⟨row, hrow, hopen⟩ := h.isOpen
  obtain ⟨r, hinit, hr⟩ := answers_initializeAudit g env
  obtain ⟨r', hread, hr'⟩ := answers_getStatus g fun n => env (n + 1)
  obtain rfl := hr.2 h.initialized
  obtain rfl := (hr' row.status).2 ⟨h.read, row, hrow, rfl⟩
  have hbegin := hinit.mapErr WorkflowError.auditTrail
  refine (callsAmong_bind_ok hbegin.result _).trans ?_
  rw [hbegin.calls]
  refine congrArg (List.cons _) ((callsAmong_bind_ok hread.result _).trans ?_)
  rw [hread.calls, if_neg (by simp [hopen])]
  rfl

/-- A run that does not ends after its reads. -/
theorem callsAmong_process_of_not_open (attempt : Option Int) (h : ¬ FindsOpen g env) :
    callsAmong (process P steps g jobId attempt jobContext).run env <+:
      [.query (.onRow g .initializeAudit), .query (.findById g)] := by
  obtain ⟨r, hinit, hr⟩ := answers_initializeAudit g env
  obtain ⟨r', hread, hr'⟩ := answers_getStatus g fun n => env (n + 1)
  have hbegin := hinit.mapErr WorkflowError.auditTrail
  cases r with
  | error e =>
    have hcalls : callsAmong (process P steps g jobId attempt jobContext).run env =
        [.query (.onRow g .initializeAudit)] := by
      exact (callsAmong_bind_error hbegin.result _).trans hbegin.calls
    rw [hcalls]
    exact List.prefix_append _ [_]
  | ok _ =>
    have hcalls : callsAmong (process P steps g jobId attempt jobContext).run env =
        [.query (.onRow g .initializeAudit), .query (.findById g)] := by
      refine (callsAmong_bind_ok hbegin.result _).trans ?_
      rw [hbegin.calls]
      refine congrArg (List.cons _) ?_
      cases r' with
      | error e => exact (callsAmong_bind_error hread.result _).trans hread.calls
      | ok status =>
        have hclosed : status.isTerminal := by
          obtain ⟨hfault, row, hrow, rfl⟩ := (hr' status).1 rfl
          by_contra hopen
          exact h ⟨hr.1 rfl, hfault, row, hrow, by simpa using hopen⟩
        refine (callsAmong_bind_ok hread.result _).trans ?_
        rw [hread.calls, if_pos hclosed]
        rfl
    rw [hcalls, List.prefix_iff_eq_append]
    rfl

/-- A phase calls its span, what its body calls, and the span again if the body
returns; and it ends as its body does. -/
theorem callsAmong_timedStep (step : StepName) (body : GatewayResult WorkflowError Unit)
    (env : Nat → World × Choice) :
    ((timedStep step body).run.run machine.interleaved env ()).result =
      (body.run.run machine.interleaved (fun n => env (n + 1)) ()).result ∧
    ∃ last : List Operation, (∀ o ∈ last, o = .span none) ∧
      callsAmong (timedStep step body).run env =
        .span (some step) :: callsAmong body.run (fun n => env (n + 1)) ++ last := by
  let leave (r : Except WorkflowError Unit) : Gateway (Except WorkflowError Unit) :=
    .op (.span none) fun _ => .ret r
  have hcalls : callsAmong (timedStep step body).run env =
      .span (some step) :: callsAmong (body.run.bind leave) fun n => env (n + 1) := rfl
  have hresult : ((timedStep step body).run.run machine.interleaved env ()).result =
      ((body.run.bind leave).run machine.interleaved (fun n => env (n + 1)) ()).result := rfl
  rw [hcalls, hresult]
  cases hbody : (body.run.run machine.interleaved (fun n => env (n + 1)) ()).result with
  | none =>
    refine ⟨congrArg Outcome.result (run_bind_of_none hbody leave), [], by simp, ?_⟩
    rw [callsAmong_bind_of_none hbody, List.append_nil]
  | some r =>
    refine ⟨congrArg Outcome.result (run_bind_of_result hbody leave), [.span none], by simp, ?_⟩
    rw [callsAmong_bind_of_result hbody]
    rfl

/-- The phases start with the classification, and the others run after it only
if it succeeds. -/
theorem callsAmong_runPhases (g : Uuid) (attempt : Int) (env : Nat → World × Choice) :
    let classified := (ensureClassified P steps g attempt jobContext).run
    let result := (classified.run machine.interleaved (fun n => env (n + 1)) ()).result
    ∃ rest : List Operation, callsAmong (runPhases P steps g jobId attempt jobContext).run env =
        .span (some .ensureClassified) :: callsAmong classified (fun n => env (n + 1)) ++ rest ∧
      (result = some (.ok ()) → .span (some .ensureGenerated) ∈ rest) ∧
      (result ≠ some (.ok ()) → ∀ o ∈ rest, o = .span none) := by
  intro classified result
  obtain ⟨hresult, last, hlast, hcalls⟩ :=
    callsAmong_timedStep .ensureClassified (ensureClassified P steps g attempt jobContext) env
  cases hclassified : result with
  | none =>
    refine ⟨last, ?_, (fun h => by cases h), fun _ => hlast⟩
    exact (callsAmong_bind_of_none (hresult.trans hclassified) _).trans hcalls
  | some r =>
    cases r with
    | error e =>
      refine ⟨last, ?_, (fun h => by cases h), fun _ => hlast⟩
      exact (callsAmong_bind_error (hresult.trans hclassified) _).trans hcalls
    | ok _ =>
      let later : GatewayResult WorkflowError Unit := do
        timedStep .ensureGenerated (ensureGenerated steps g jobId attempt jobContext)
        deliver steps g attempt jobContext
      let after (n : Nat) : World × Choice := env (n + (callsAmong (timedStep .ensureClassified
        (ensureClassified P steps g attempt jobContext)).run env).length)
      refine ⟨last ++ callsAmong later.run after, ?_, fun _ => ?_, fun h => absurd rfl h⟩
      · refine (callsAmong_bind_ok (hresult.trans hclassified) _).trans ?_
        rw [← List.append_assoc, ← hcalls]
      · exact List.mem_append_right _ (List.mem_cons_self ..)

end Process

/-! ## The guarantee -/

/-- The call enters a phase. -/
def entersStep (o : Operation) : Bool := o matches .span (some _)

/-- The call enters the phase that submits the render job. -/
def entersGeneration (o : Operation) : Bool := o matches .span (some .ensureGenerated)

/-- The call submits a render job. -/
def submits (o : Operation) : Bool := o matches .postJob _

/-- What is expected of the calls of a run: a phase, and the render job if it gets that far. -/
structure Executes (calls : List Operation) : Prop where
  step : calls.any entersStep
  submission : calls.any entersGeneration → calls.any submits

/-- The classification of a run that enters it with its third call does not succeed. -/
def ClassificationFails (A : AppState) (g : Uuid) (env : Nat → World × Choice) : Prop :=
  ((ensureClassified A.platform (workerSteps A.platform A.webhookBaseUrl) g 1
    (some workerJobContext)).run.run machine.interleaved (fun n => env (n + 3)) ()).result ≠
      some (.ok ())

/-- After its run a task acknowledges, or deals with the failure. -/
theorem callsAmong_entryTask (A : AppState) (e : StreamEntry JobMessage)
    (env : Nat → World × Choice) :
    ∃ tail : List Operation, (∀ o ∈ tail, TailCall e.fields.generationId o) ∧
      callsAmong (entryTask A e).2 env =
        callsAmong (process A.platform (workerSteps A.platform A.webhookBaseUrl)
          e.fields.generationId e.fields.jobId (some e.fields.attempt)
          (some workerJobContext)).run env ++ tail := by
  let run := (process A.platform (workerSteps A.platform A.webhookBaseUrl) e.fields.generationId
    e.fields.jobId (some e.fields.attempt) (some workerJobContext)).run
  let rest : Except WorkflowError Unit → Gateway Unit :=
    Wire.afterRun A.platform e.id e.fields
  have hrest (r : Except WorkflowError Unit) :
      OnlyCalls (TailCall e.fields.generationId) (rest r) := by
    cases r with
    | ok _ => exact (only_ackEntry _).mono fun _ => .inl
    | error error => exact only_handleFailure _ _ _
  have htask : callsAmong (entryTask A e).2 env = callsAmong (run.bind rest) env := rfl
  rw [htask]
  cases hresult : (run.run machine.interleaved env ()).result with
  | none =>
    refine ⟨[], by simp, ?_⟩
    rw [callsAmong, run_bind_of_none hresult, List.append_nil]
    rfl
  | some r =>
    let after (n : Nat) : World × Choice :=
      env (n + (run.run machine.interleaved env ()).calls.length)
    refine ⟨callsAmong (rest r) after, fun o ho => ?_, ?_⟩
    · exact of_mem_callsAmong (hrest r) ho
    · have hcalls := congrArg Outcome.calls (run_bind_of_result hresult rest)
      exact (congrArg (List.map Call.op) hcalls).trans List.map_append

theorem TailCall.not_step {g : Uuid} {o : Operation} (h : TailCall g o) :
    entersStep o = false ∧ entersGeneration o = false ∧ submits o = false := by
  cases o with
  | query q => exact ⟨rfl, rfl, rfl⟩
  | command c => exact ⟨rfl, rfl, rfl⟩
  | now => exact ⟨rfl, rfl, rfl⟩
  | _ => rcases h with h | h <;> cases h

/-- A run without a job submits none. -/
theorem JobCall.not_submits {o : Operation} (h : JobCall g none o) : submits o = false := by
  cases o with
  | postJob request =>
    obtain ((h | h) | h) | ⟨j, h, -⟩ := h
    all_goals cases h
  | _ => rfl

/-- No step callback enters a phase. -/
theorem StepCall.not_entersGeneration {T : RowStatement → Prop} {o : Operation}
    (h : StepCall T g o) : entersGeneration o = false := by
  cases o with
  | span step => rcases h with h | h <;> cases h
  | _ => rfl

theorem any_callsAmong_eq_false {α : Type} {φ : Operation → Prop} {f : Operation → Bool}
    {p : Gateway α} (hp : OnlyCalls φ p) (hf : ∀ o, φ o → f o = false) :
    (callsAmong p env).any f = false := by
  rw [List.any_eq_false]
  intro o ho
  simp [hf o (of_mem_callsAmong hp ho)]

/-- A run without a job does what is expected exactly when it finds the row open
and its classification fails. -/
theorem executes_iff (A : AppState) {e : StreamEntry JobMessage} {g : Uuid} {now : DateTime}
    (he : e.fields = retryMessage g now) (env : Nat → World × Choice) :
    Executes (callsAmong (entryTask A e).2 env) ↔
      FindsOpen g env ∧ ClassificationFails A g env := by
  let run := (process A.platform (workerSteps A.platform A.webhookBaseUrl) g none (some 1)
    (some workerJobContext)).run
  obtain ⟨tail, htail, hcalls⟩ : ∃ tail : List Operation, (∀ o ∈ tail, TailCall g o) ∧
      callsAmong (entryTask A e).2 env = callsAmong run env ++ tail := by
    have h := callsAmong_entryTask A e env
    rwa [he] at h
  have hany (f : Operation → Bool) (hf : ∀ o, TailCall g o → f o = false) :
      (callsAmong (entryTask A e).2 env).any f = (callsAmong run env).any f := by
    have hnone : tail.any f = false := List.any_eq_false.2 fun o ho => by simp [hf o (htail o ho)]
    rw [hcalls, List.any_append, hnone, Bool.or_false]
  have hsubmits : (callsAmong (entryTask A e).2 env).any submits = false := by
    rw [hany _ fun _ h => h.not_step.2.2]
    exact any_callsAmong_eq_false (only_processJob _) fun _ => JobCall.not_submits
  have hexecutes : Executes (callsAmong (entryTask A e).2 env) ↔
      (callsAmong run env).any entersStep ∧ (callsAmong run env).any entersGeneration = false := by
    rw [← hany _ fun _ h => h.not_step.1, ← hany _ fun _ h => h.not_step.2.1]
    constructor
    · intro h
      refine ⟨h.step, Bool.eq_false_iff.2 fun hgen => ?_⟩
      rw [h.submission hgen] at hsubmits
      cases hsubmits
    · intro h
      refine ⟨h.1, fun hgen => ?_⟩
      rw [h.2] at hgen
      cases hgen
  rw [hexecutes]
  by_cases hopen : FindsOpen g env
  · obtain ⟨rest, hphases, hok, herr⟩ := callsAmong_runPhases A.platform
      (workerSteps A.platform A.webhookBaseUrl) none (some workerJobContext) g 1 fun n => env (n + 2)
    have hrun := callsAmong_process_of_open A.platform (workerSteps A.platform A.webhookBaseUrl)
      none (some workerJobContext) (some 1) hopen
    rw [Option.getD_some, hphases] at hrun
    have hclassified : (callsAmong (ensureClassified A.platform
        (workerSteps A.platform A.webhookBaseUrl) g 1 (some workerJobContext)).run
        fun n => env (n + 1 + 2)).any entersGeneration = false :=
      any_callsAmong_eq_false only_ensureClassified fun _ => StepCall.not_entersGeneration
    have hgeneration : (callsAmong run env).any entersGeneration = rest.any entersGeneration := by
      rw [hrun, List.any_cons, List.any_cons, List.cons_append, List.any_cons, List.any_append,
        hclassified]
      rfl
    have hstep : (callsAmong run env).any entersStep := by
      rw [hrun]
      simp [entersStep]
    rw [hgeneration]
    refine ⟨fun h => ⟨hopen, fun hresult => ?_⟩, fun h => ⟨hstep, ?_⟩⟩
    · have hentered := List.any_eq_false.1 h.2 _ (hok hresult)
      exact hentered rfl
    · refine List.any_eq_false.2 fun o ho => ?_
      rw [herr h.2 o ho]
      simp [entersGeneration]
  · refine iff_of_false (fun h => ?_) fun h => hopen h.1
    obtain ⟨o, ho, hstep⟩ := List.any_eq_true.1 h.1
    have hread := (callsAmong_process_of_not_open A.platform
      (workerSteps A.platform A.webhookBaseUrl) none (some workerJobContext) (some 1)
      hopen).subset ho
    simp only [List.mem_cons, List.not_mem_nil, or_false] at hread
    obtain rfl | rfl := hread
    · cases hstep
    · cases hstep

/-- The run for the message that a retry puts into the stream does what is
expected exactly when it finds the row open and its classification fails. -/
theorem retry_executes_iff (A : AppState) {g : Uuid} {r : Redis} {env : Nat → Choice}
    (h : ((retryFromDlq g).run.run retryMachine env r).result = some (.ok true)) :
    ∃ e, ((retryFromDlq g).run.run retryMachine env r).world.jobs.entries = r.jobs.entries ++ [e] ∧
      e.fields.generationId = g ∧
      ∀ env, Executes (callsAmong (entryTask A e).2 env) ↔
        FindsOpen g env ∧ ClassificationFails A g env := by
  obtain ⟨now, hentries⟩ := retry_enqueues h
  exact ⟨_, hentries, rfl, executes_iff A rfl⟩

/-- The streams with one dead letter. -/
def oneLetter : Redis := { dlq := { entries := [⟨1, ⟨⟨0⟩, 1, .null⟩⟩], lastId := 1 } }

/-- The retry of that letter. -/
theorem retry_executes_iff_sample :
    ∃ e, ((retryFromDlq ⟨0⟩).run.run retryMachine (fun _ => fine) oneLetter).world.jobs.entries = [e] ∧
      e.fields.generationId = ⟨0⟩ ∧
      ∀ env, Executes (callsAmong (entryTask sampleGateway e).2 env) ↔
        FindsOpen ⟨0⟩ env ∧ ClassificationFails sampleGateway ⟨0⟩ env :=
  retry_executes_iff sampleGateway (by rfl)

/-- The retry of the last letter, and whether the run for its message, alone and without any
fault, enters a phase. -/
def retried (w : World) : Option Bool × Option Bool :=
  let out := (retryFromDlq ⟨0⟩).run.run retryMachine (fun _ => fine) w.redis
  (out.result.bind Except.toOption, out.world.jobs.entries.getLast?.map fun e =>
    (((entryTask sampleGateway e).2.run machine (fun _ => fine)
      { w with redis := out.world }).calls.map Call.op).any entersStep)

/-- A generation was moved to the dead letters, and the run for the message of its retry returns
at once. -/
theorem retried_job_returns :
    ∃ (s : (system sampleGateway).State) (e : StreamEntry JobMessage),
      Reachable sampleGateway (fun _ _ => True) s ∧
      ((retryFromDlq ⟨0⟩).run.run retryMachine (fun _ => fine) s.world.redis).result =
        some (.ok true) ∧
      ((retryFromDlq ⟨0⟩).run.run retryMachine (fun _ => fine) s.world.redis).world.jobs.entries =
        s.world.redis.jobs.entries ++ [e] ∧
      ¬ Executes (((entryTask sampleGateway e).2.run machine (fun _ => fine)
        { s.world with redis := ((retryFromDlq ⟨0⟩).run.run retryMachine (fun _ => fine)
          s.world.redis).world }).calls.map Call.op) := by
  have hplay : ((Pool.play (fun _ _ => True) ((system sampleGateway).start sampleWorld)
      requestFailed).map fun s => retried s.world) = some (some true, some false) := by
    decide +kernel
  obtain ⟨s, hs, he⟩ := Pool.exists_of_play hplay
  obtain ⟨hresult, hcalls⟩ := Prod.mk.inj he
  obtain ⟨r, hr, htrue⟩ := Option.bind_eq_some_iff.1 hresult
  have hok : ((retryFromDlq ⟨0⟩).run.run retryMachine (fun _ => fine) s.world.redis).result =
      some (.ok true) := by
    cases r with
    | ok b => rw [hr, Option.some.inj htrue]
    | error e => cases htrue
  obtain ⟨now, hentries⟩ := retry_enqueues hok
  refine ⟨s, _, ⟨_, initial_sampleWorld, hs⟩, hok, hentries, fun h => ?_⟩
  rw [hentries, List.getLast?_concat] at hcalls
  exact Bool.noConfusion (h.step.symm.trans (Option.some.inj hcalls))

end KlassGateway
