import KlassGateway.Lib.BoundedLog
import KlassGateway.System
/-!
# The audit trail of a row

Runs of the calls that write `orchestration_audit_payload` on one row, in any
order and at any times.  Beside the row a run carries the log of all events
since the payload was seeded, which the payload itself only keeps the newest
entries of.
-/

namespace KlassGateway

open Lib Db Orchestrator

/-! ## Calls and runs -/

/-- The calls on the payload of a row. -/
inductive AuditCall where
  | initializeAudit
  | transition (toStatus : MediaGenerationStatus) (context : Option Json) (attempt : Option Int)
      (jobContext : Option Json)
  | recordAttemptFailure (errorCode errorMessage : String) (retryable : Bool)
      (context : Option Json) (attempt : Option Int) (jobContext : Option Json)
  | markFailed (errorCode errorMessage : String) (retryable : Bool) (context : Option Json)
      (attempt : Option Int) (jobContext : Option Json)
  | resetForReprocessing (newRawPrompt : String)

namespace AuditCall

/-- What a call does to the row: the row that it commits, an error, or a
panic. -/
def result (now : DateTime) (g : MediaGeneration) :
    AuditCall → Option (Except AuditTrailError MediaGeneration)
  | initializeAudit => some (.ok (initializeRow now g))
  | transition toStatus context attempt jobContext =>
    transitionRow toStatus context attempt jobContext now g
  | recordAttemptFailure errorCode errorMessage retryable context attempt jobContext =>
    recordAttemptFailureRow errorCode errorMessage retryable context attempt jobContext now g
  | markFailed errorCode errorMessage retryable context attempt jobContext =>
    markFailedRow errorCode errorMessage retryable context attempt jobContext now g
  | resetForReprocessing newRawPrompt =>
    some (.ok ((RowUpdate.resetForReprocessing newRawPrompt).apply now g))

/-- The creation of the payload, if the row has none. -/
def seeded (now : DateTime) (g : MediaGeneration) : List HistoryEntry :=
  match g.orchestrationAuditPayload with
  | some _ => []
  | none => (buildBasePayload now).statusHistory

/-- A change of the status. -/
def statusChange (now : DateTime) (g : MediaGeneration) (toStatus : MediaGenerationStatus)
    (context : Option Json) (attempt : Option Int) (error : Option AuditError) :
    List HistoryEntry :=
  if g.status = toStatus then []
  else [.statusTransition (some g.status) toStatus (attempt.getD 0) now
    ((filterContext context).getD .null) error]

/-- The events of a call that commits. -/
def events (now : DateTime) (g : MediaGeneration) : AuditCall → List HistoryEntry
  | initializeAudit => seeded now g
  | transition toStatus context attempt _ =>
    seeded now g ++ statusChange now g toStatus context attempt none
  | recordAttemptFailure errorCode errorMessage retryable context attempt _ =>
    (failureError errorCode errorMessage retryable context).toList.map fun error =>
      .attemptFailed g.status (attempt.getD 0) now ((filterContext context).getD .null) error
  | markFailed errorCode errorMessage retryable context attempt _ =>
    seeded now g ++ statusChange now g .failed context attempt
      (failureError errorCode errorMessage retryable context)
  | resetForReprocessing _ => []

/-- The log after a call that commits.  A reset removes the payload, and the
log begins anew. -/
def logged (now : DateTime) (g : MediaGeneration) (log : List HistoryEntry) :
    AuditCall → List HistoryEntry
  | resetForReprocessing _ => []
  | call => log ++ call.events now g

end AuditCall

/-- A call at a time.  A call that `fails` has met a database error and leaves
the row alone. -/
structure AuditStep where
  call : AuditCall
  now : DateTime
  fails : Bool := false

/-- A row with its log. -/
structure Audited where
  row : MediaGeneration
  log : List HistoryEntry

namespace Audited

/-- One call. -/
def step (s : Audited) (st : AuditStep) : Audited :=
  match st.fails, st.call.result st.now s.row with
  | false, some (.ok g) => ⟨g, st.call.logged st.now s.row s.log⟩
  | _, _ => s

/-- A run of calls. -/
def run (s : Audited) (steps : List AuditStep) : Audited := steps.foldl step s

/-- Either the call commits, or nothing changes. -/
theorem step_cases (s : Audited) (st : AuditStep) :
    s.step st = s ∨ ∃ g, st.call.result st.now s.row = some (.ok g) ∧
      s.step st = ⟨g, st.call.logged st.now s.row s.log⟩ := by
  unfold step
  split
  · next g _ hg => exact .inr ⟨g, hg, rfl⟩
  · exact .inl rfl

end Audited

/-! ## The history -/

/-- The statuses that an entry leads from and to, if it is a transition. -/
def HistoryEntry.edge :
    HistoryEntry → Option (Option MediaGenerationStatus × MediaGenerationStatus)
  | .statusTransition fromStatus toStatus _ _ _ _ => some (fromStatus, toStatus)
  | .attemptFailed _ _ _ _ _ => none

/-- The transitions of a history, oldest first. -/
def edges (history : List HistoryEntry) :
    List (Option MediaGenerationStatus × MediaGenerationStatus) :=
  history.filterMap HistoryEntry.edge

/-- A transition comes from nowhere, at the creation of the payload, or it is
an edge of the matrix. -/
def LegalEdge : Option MediaGenerationStatus × MediaGenerationStatus → Prop
  | (none, toStatus) => toStatus = .queued
  | (some fromStatus, toStatus) => fromStatus.canTransition toStatus

/-- What is expected of the payload of a row: its status is that of the row,
its transitions are legal and lead from one to the next up to that status, and
its entries are the newest ones of the log. -/
structure HistoryOk (status : MediaGenerationStatus) (log : List HistoryEntry)
    (payload : AuditPayload) : Prop where
  current : payload.currentStatus = status
  legal : ∀ e ∈ edges payload.statusHistory, LegalEdge e
  chain : (edges payload.statusHistory).IsChain fun a b => b.1 = some a.2
  last : ∀ e, (edges payload.statusHistory).getLast? = some e → e.2 = payload.currentStatus
  bounded : payload.statusHistory.length ≤ historyLimit
  entries : payload.statusHistory = newest historyLimit log

/-- The invariant of a run: the same for the whole log, which always has a last
transition. -/
structure Recorded (status : MediaGenerationStatus) (log : List HistoryEntry)
    (payload : AuditPayload) : Prop where
  schema : payload.schemaVersion = auditSchemaVersion
  current : payload.currentStatus = status
  legal : ∀ e ∈ edges log, LegalEdge e
  chain : (edges log).IsChain fun a b => b.1 = some a.2
  last : ∃ e, (edges log).getLast? = some e ∧ e.2 = status
  entries : payload.statusHistory = newest historyLimit log

/-- A part of the log inherits what holds of the whole. -/
theorem Recorded.historyOk {status : MediaGenerationStatus} {log : List HistoryEntry}
    {payload : AuditPayload} (h : Recorded status log payload) : HistoryOk status log payload := by
  have hpart : edges payload.statusHistory <:+ edges log := by
    rw [h.entries]
    exact (newest_suffix _ _).filterMap _
  refine ⟨h.current, fun e he => h.legal e (hpart.subset he), h.chain.suffix hpart, ?_, ?_,
    h.entries⟩
  · intro e he
    obtain ⟨e', hlast, hstatus⟩ := h.last
    have hsame : e = e' := by
      have he' := getLast?_of_suffix hpart he
      rw [hlast] at he'
      exact (Option.some.inj he').symm
    rw [hsame, hstatus, h.current]
  · rw [h.entries]
    exact length_newest_le _ _

variable {status toStatus : MediaGenerationStatus} {log : List HistoryEntry}
  {payload : AuditPayload} {now : DateTime} {g : MediaGeneration}

/-- The runtime metadata are not part of the history. -/
theorem Recorded.runtime (h : Recorded status log payload) (now : DateTime) (attempt : Option Int)
    (jobContext : Option Json) :
    Recorded status log (applyRuntimeMetadata payload now attempt jobContext) :=
  ⟨h.schema, h.current, h.legal, h.chain, h.last, h.entries⟩

/-- A transition by an edge of the matrix. -/
theorem Recorded.transition (h : Recorded status log payload)
    (hedge : status.canTransition toStatus) {attempt : Int} {at_ : DateTime} {context : Json}
    {error : Option AuditError} {payload' : AuditPayload}
    (hschema : payload'.schemaVersion = payload.schemaVersion)
    (hcurrent : payload'.currentStatus = toStatus)
    (hhistory : payload'.statusHistory = (appendHistory payload
      (.statusTransition (some status) toStatus attempt at_ context error)).statusHistory) :
    Recorded toStatus (log ++ [.statusTransition (some status) toStatus attempt at_ context error])
      payload' := by
  have hedges : edges (log ++ [.statusTransition (some status) toStatus attempt at_ context error]) =
      edges log ++ [(some status, toStatus)] := List.filterMap_append
  refine ⟨hschema.trans h.schema, hcurrent, ?_, ?_, ⟨(some status, toStatus), ?_, rfl⟩, ?_⟩
  · intro e he
    rw [hedges, List.mem_append, List.mem_singleton] at he
    obtain he | rfl := he
    · exact h.legal e he
    · exact hedge
  · rw [hedges]
    refine List.isChain_append.2 ⟨h.chain, List.isChain_singleton _, ?_⟩
    intro a ha b hb
    obtain ⟨e, hlast, hstatus⟩ := h.last
    rw [hlast] at ha
    cases ha
    cases hb
    exact congrArg some hstatus.symm
  · rw [hedges, List.getLast?_append]
    rfl
  · rw [hhistory]
    show newest historyLimit (payload.statusHistory ++ [_]) = _
    rw [h.entries, newest_push]

/-- A failed attempt. -/
theorem Recorded.attemptFailed (h : Recorded status log payload) {attempt : Int} {at_ : DateTime}
    {context : Json} {error : AuditError} {payload' : AuditPayload}
    (hschema : payload'.schemaVersion = payload.schemaVersion)
    (hcurrent : payload'.currentStatus = payload.currentStatus)
    (hhistory : payload'.statusHistory = (appendHistory payload
      (.attemptFailed payload.currentStatus attempt at_ context error)).statusHistory) :
    Recorded status (log ++ [.attemptFailed status attempt at_ context error]) payload' := by
  have hedges : edges (log ++ [.attemptFailed status attempt at_ context error]) = edges log := by
    rw [edges, List.filterMap_append]
    exact List.append_nil _
  refine ⟨hschema.trans h.schema, hcurrent.trans h.current, by rw [hedges]; exact h.legal,
    by rw [hedges]; exact h.chain, by rw [hedges]; exact h.last, ?_⟩
  rw [hhistory, h.current]
  show newest historyLimit (payload.statusHistory ++ [_]) = _
  rw [h.entries, newest_push]

/-! ## The invariant of a run -/

/-- A row without a payload is queued and has no log; a payload is recorded. -/
def AuditOk (s : Audited) : Prop :=
  match s.row.orchestrationAuditPayload with
  | none => s.row.status = .queued ∧ s.log = []
  | some payload => Recorded s.row.status s.log payload

/-- The payload that a call works on: the one of the row, or a fresh one. -/
theorem AuditOk.current {s : Audited} (h : AuditOk s) (now : DateTime) :
    Recorded s.row.status (s.log ++ AuditCall.seeded now s.row) (currentPayload s.row now) := by
  unfold AuditOk at h
  unfold currentPayload AuditCall.seeded
  cases hp : s.row.orchestrationAuditPayload with
  | some payload =>
    rw [hp] at h
    rw [List.append_nil]
    exact h
  | none =>
    rw [hp] at h
    obtain ⟨hqueued, hlog⟩ := h
    rw [hqueued, hlog]
    refine ⟨rfl, rfl, ?_, List.isChain_singleton _, ⟨(none, .queued), rfl, rfl⟩, rfl⟩
    intro e he
    obtain rfl := List.mem_singleton.1 he
    rfl

theorem auditOk_of_recorded {s : Audited} (hpayload : s.row.orchestrationAuditPayload = some payload)
    (h : Recorded s.row.status s.log payload) : AuditOk s := by
  unfold AuditOk
  rw [hpayload]
  exact h

/-- `initialize` leaves the payload that the other calls would work on. -/
theorem AuditOk.initializeRow {s : Audited} (h : AuditOk s) (now : DateTime) :
    (initializeRow now s.row).status = s.row.status ∧
      (initializeRow now s.row).orchestrationAuditPayload = some (currentPayload s.row now) := by
  unfold AuditOk at h
  unfold currentPayload
  cases hp : s.row.orchestrationAuditPayload with
  | none =>
    unfold Orchestrator.initializeRow
    rw [hp]
    exact ⟨rfl, rfl⟩
  | some payload =>
    rw [hp] at h
    rw [initializeRow_of_schema hp h.schema]
    exact ⟨rfl, hp⟩

theorem AuditOk.transitionRow {s : Audited} (h : AuditOk s) {context : Option Json}
    {attempt : Option Int} {jobContext : Option Json}
    (hg : transitionRow toStatus context attempt jobContext now s.row = some (.ok g)) :
    AuditOk ⟨g, (AuditCall.transition toStatus context attempt jobContext).logged now s.row s.log⟩ := by
  have hcurrent := (h.current now).runtime now attempt jobContext
  have hlog : (AuditCall.transition toStatus context attempt jobContext).logged now s.row s.log =
      s.log ++ AuditCall.seeded now s.row ++
        AuditCall.statusChange now s.row toStatus context attempt none :=
    (List.append_assoc _ _ _).symm
  rw [hlog, AuditCall.statusChange]
  rw [Orchestrator.transitionRow] at hg
  split_ifs at hg with hsame hmay
  · -- A re-run of the same status has no event.
    cases hg
    rw [if_pos hsame, List.append_nil]
    refine auditOk_of_recorded rfl ⟨hcurrent.schema, hsame.symm, hcurrent.legal, hcurrent.chain,
      hcurrent.last, hcurrent.entries⟩
  · obtain ⟨safe, hsafe, hg⟩ := Option.map_eq_some_iff.1 hg
    cases hg
    rw [if_neg hsame, hsafe]
    exact auditOk_of_recorded rfl (hcurrent.transition hmay rfl rfl rfl)
  · cases hg

theorem AuditOk.recordAttemptFailureRow {s : Audited} (h : AuditOk s) {code message : String}
    {retryable : Bool} {context : Option Json} {attempt : Option Int} {jobContext : Option Json}
    (hg : recordAttemptFailureRow code message retryable context attempt jobContext now s.row =
      some (.ok g)) :
    AuditOk ⟨g, (AuditCall.recordAttemptFailure code message retryable context attempt
      jobContext).logged now s.row s.log⟩ := by
  rw [Orchestrator.recordAttemptFailureRow] at hg
  split at hg
  · cases hg
  · next payload hp =>
    have hrecorded : Recorded s.row.status s.log payload := by
      unfold AuditOk at h
      rw [hp] at h
      exact h
    obtain ⟨error, herror, hg⟩ := Option.bind_eq_some_iff.1 hg
    obtain ⟨safe, hsafe, hg⟩ := Option.bind_eq_some_iff.1 hg
    cases hg
    have hlog : (AuditCall.recordAttemptFailure code message retryable context attempt
        jobContext).logged now s.row s.log =
          s.log ++ [.attemptFailed s.row.status (attempt.getD 0) now safe error] := by
      simp only [AuditCall.logged, AuditCall.events, herror, hsafe, Option.toList_some,
        List.map_cons, List.map_nil, Option.getD_some]
    rw [hlog]
    exact auditOk_of_recorded rfl
      ((hrecorded.runtime now attempt jobContext).attemptFailed rfl rfl rfl)

theorem AuditOk.markFailedRow {s : Audited} (h : AuditOk s) {code message : String}
    {retryable : Bool} {context : Option Json} {attempt : Option Int} {jobContext : Option Json}
    (hg : markFailedRow code message retryable context attempt jobContext now s.row =
      some (.ok g)) :
    AuditOk ⟨g, (AuditCall.markFailed code message retryable context attempt jobContext).logged now
      s.row s.log⟩ := by
  have hcurrent := (h.current now).runtime now attempt jobContext
  have hlog : (AuditCall.markFailed code message retryable context attempt jobContext).logged now
      s.row s.log = s.log ++ AuditCall.seeded now s.row ++ AuditCall.statusChange now s.row .failed
        context attempt (failureError code message retryable context) :=
    (List.append_assoc _ _ _).symm
  rw [hlog, AuditCall.statusChange]
  rw [Orchestrator.markFailedRow] at hg
  split at hg
  · cases hg
  · next hdone =>
    obtain ⟨error, herror, hg⟩ := Option.bind_eq_some_iff.1 hg
    obtain ⟨payload, hpayload, hg⟩ := Option.bind_eq_some_iff.1 hg
    cases hg
    rw [failedTransition] at hpayload
    split at hpayload
    · next hopen =>
      obtain ⟨safe, hsafe, hpayload⟩ := Option.map_eq_some_iff.1 hpayload
      cases hpayload
      rw [if_neg hopen.1, herror, hsafe]
      exact auditOk_of_recorded rfl (hcurrent.transition hopen.2 rfl rfl rfl)
    · next hfailed =>
      -- Every status that is not terminal may fail.
      have hstatus : s.row.status = .failed := by
        revert hfailed hdone
        cases s.row.status <;> decide
      cases hpayload
      rw [if_pos hstatus, List.append_nil]
      rw [hstatus] at hcurrent
      exact auditOk_of_recorded rfl ⟨hcurrent.schema, rfl, hcurrent.legal, hcurrent.chain,
        hcurrent.last, hcurrent.entries⟩

/-- Every call keeps the invariant. -/
theorem AuditOk.step {s : Audited} (h : AuditOk s) (st : AuditStep) : AuditOk (s.step st) := by
  obtain hsame | ⟨g, hg, hstep⟩ := s.step_cases st
  · rw [hsame]
    exact h
  · rw [hstep]
    cases hcall : st.call with
    | initializeAudit =>
      rw [hcall] at hg
      cases hg
      obtain ⟨hstatus, hpayload⟩ := h.initializeRow st.now
      refine auditOk_of_recorded hpayload ?_
      rw [hstatus]
      exact h.current st.now
    | transition toStatus context attempt jobContext =>
      rw [hcall] at hg
      exact h.transitionRow hg
    | recordAttemptFailure code message retryable context attempt jobContext =>
      rw [hcall] at hg
      exact h.recordAttemptFailureRow hg
    | markFailed code message retryable context attempt jobContext =>
      rw [hcall] at hg
      exact h.markFailedRow hg
    | resetForReprocessing prompt =>
      rw [hcall] at hg
      cases hg
      exact ⟨rfl, rfl⟩

/-- Every run keeps the invariant. -/
theorem AuditOk.run {s : Audited} (h : AuditOk s) (steps : List AuditStep) :
    AuditOk (s.run steps) := by
  induction steps generalizing s with
  | nil => exact h
  | cons st rest ih => exact ih (h.step st)

/-- The payload of a row that `create_or_reuse` has inserted, after any run of
calls. -/
theorem history_of_run (P : Platform) (input : CreateInput) (id : Uuid) (created : DateTime)
    (steps : List AuditStep) {s : Audited}
    (hs : s = Audited.run ⟨Database.stamp created (input.toRow P id), []⟩ steps)
    {payload : AuditPayload} (hp : s.row.orchestrationAuditPayload = some payload) :
    HistoryOk s.row.status s.log payload := by
  have hstart : AuditOk ⟨Database.stamp created (input.toRow P id), []⟩ := ⟨rfl, rfl⟩
  have hok : AuditOk s := by
    rw [hs]
    exact hstart.run steps
  unfold AuditOk at hok
  rw [hp] at hok
  exact hok.historyOk

/-- A run with a failed attempt and a failure. -/
def sampleAudit : Audited :=
  Audited.run ⟨Database.stamp 0 (CreateInput.toRow asciiPlatform ⟨7, "fotosintesis", none, none,
    none, {}⟩ ⟨0⟩), []⟩
    [⟨.transition .interpreting none (some 1) none, 1, false⟩,
      ⟨.recordAttemptFailure "E" "timeout" true none (some 1) none, 2, false⟩,
      ⟨.markFailed "E" "timeout" false none (some 2) none, 3, false⟩]

/-- Its history. -/
theorem history_of_run_sample :
    ∃ payload, sampleAudit.row.orchestrationAuditPayload = some payload ∧
      sampleAudit.log.length = 4 ∧ HistoryOk .failed sampleAudit.log payload := by
  have hrun : sampleAudit.row.status = .failed ∧ sampleAudit.log.length = 4 ∧
      sampleAudit.row.orchestrationAuditPayload.isSome := by
    decide +kernel
  obtain ⟨hstatus, hlog, hsome⟩ := hrun
  obtain ⟨payload, hp⟩ := Option.isSome_iff_exists.1 hsome
  refine ⟨payload, hp, hlog, ?_⟩
  rw [← hstatus]
  exact history_of_run asciiPlatform _ _ _ _ rfl hp

/-! ## Durations -/

/-- The sum of all `status_durations_ms`. -/
def totalOf (durations : List (MediaGenerationStatus × Int)) : Int := (durations.map Prod.snd).sum

theorem totalOf_addDuration (status : MediaGenerationStatus) (ms : Int)
    (durations : List (MediaGenerationStatus × Int)) :
    totalOf (addDuration status ms durations) = totalOf durations + ms := by
  induction durations with
  | nil => simp [addDuration, totalOf]
  | cons d rest ih =>
    unfold totalOf at ih ⊢
    rw [addDuration]
    split
    · simp only [List.map_cons, List.sum_cons]
      omega
    · simp only [List.map_cons, List.sum_cons, ih]
      omega

theorem nonneg_addDuration {status : MediaGenerationStatus} {ms : Int} (hms : 0 ≤ ms)
    {durations : List (MediaGenerationStatus × Int)} (h : ∀ d ∈ durations, 0 ≤ d.2) :
    ∀ d ∈ addDuration status ms durations, 0 ≤ d.2 := by
  induction durations with
  | nil =>
    intro d hd
    obtain rfl := List.mem_singleton.1 hd
    exact hms
  | cons d rest ih =>
    rw [List.forall_mem_cons] at h
    rw [addDuration]
    split
    · exact List.forall_mem_cons.2 ⟨Int.add_nonneg h.1 hms, h.2⟩
    · exact List.forall_mem_cons.2 ⟨h.1, ih h.2⟩

/-- Between times that are in order nothing is cut off at zero. -/
theorem elapsedMs_of_le {since now : DateTime} (h : since ≤ now) :
    elapsedMs since now = now.timestampMillis - since.timestampMillis := by
  have hms : since.timestampMillis ≤ now.timestampMillis := Int.ediv_le_ediv (by decide) h
  unfold elapsedMs
  omega

/-- What holds of the timing after every call. -/
structure TimingOk (queuedAt : DateTime) (status : MediaGenerationStatus)
    (timing : AuditTiming) : Prop where
  queued : timing.queuedAt = queuedAt
  nonneg : ∀ d ∈ timing.statusDurationsMs, 0 ≤ d.2
  completed : timing.completedAt = if status.isTerminal then some timing.lastTransitionAt else none

/-- What holds after a transition at `now`: the durations add up to the total
duration, which is the time since the generation was queued. -/
structure TransitionTimed (queuedAt now : DateTime) (timing : AuditTiming) : Prop where
  last : timing.lastTransitionAt = now
  total : timing.totalDurationMs =
    some (timing.lastTransitionAt.timestampMillis - queuedAt.timestampMillis)
  sum : timing.totalDurationMs = some (totalOf timing.statusDurationsMs)

/-- The invariant of a run: besides `TimingOk`, the durations add up to the
time of the last transition, which is not in the future. -/
structure Timed (queuedAt now : DateTime) (status : MediaGenerationStatus)
    (timing : AuditTiming) : Prop extends TimingOk queuedAt status timing where
  telescope : totalOf timing.statusDurationsMs =
    timing.lastTransitionAt.timestampMillis - queuedAt.timestampMillis
  order : queuedAt ≤ timing.lastTransitionAt ∧ timing.lastTransitionAt ≤ now

variable {queuedAt later : DateTime}

/-- A transition by an edge of the matrix. -/
theorem Timed.transition (h : Timed queuedAt now status payload.timing) (hle : now ≤ later)
    (hedge : status.canTransition toStatus) :
    Timed queuedAt later toStatus
        (applyTransitionTiming payload status toStatus later).timing ∧
      TransitionTimed queuedAt later
        (applyTransitionTiming payload status toStatus later).timing := by
  have hlast : payload.timing.lastTransitionAt ≤ later := h.order.2.trans hle
  have hqueued : queuedAt ≤ later := h.order.1.trans hlast
  have hopen : status.isTerminal = false := by
    revert hedge
    cases status <;> cases toStatus <;> decide
  have helapsed := elapsedMs_of_le hlast
  have hnonneg : 0 ≤ elapsedMs payload.timing.lastTransitionAt later := le_max_right _ _
  have hsum : totalOf (applyTransitionTiming payload status toStatus later).timing.statusDurationsMs =
      later.timestampMillis - queuedAt.timestampMillis := by
    show totalOf (addDuration _ _ _) = _
    rw [totalOf_addDuration, h.telescope, helapsed]
    omega
  have htotal : (applyTransitionTiming payload status toStatus later).timing.totalDurationMs =
      some (later.timestampMillis - queuedAt.timestampMillis) := by
    show some (elapsedMs payload.timing.queuedAt later) = _
    rw [h.queued, elapsedMs_of_le hqueued]
  refine ⟨⟨⟨h.queued, nonneg_addDuration hnonneg h.nonneg, ?_⟩, hsum, hqueued, le_refl _⟩,
    rfl, htotal, by rw [htotal, hsum]⟩
  show (if toStatus.isTerminal then some later else payload.timing.completedAt) = _
  rw [h.completed, hopen]
  rfl

/-- Without a transition time only passes. -/
theorem Timed.wait {timing timing' : AuditTiming} (h : Timed queuedAt now status timing)
    (hle : now ≤ later)
    (hsame : timing' = { timing with totalDurationMs := timing'.totalDurationMs }) :
    Timed queuedAt later status timing' := by
  rw [hsame]
  exact ⟨⟨h.queued, h.nonneg, h.completed⟩, h.telescope, h.order.1, h.order.2.trans hle⟩

/-- The row has a payload, and its timing is in order. -/
def TimedRow (queuedAt now : DateTime) (g : MediaGeneration) : Prop :=
  ∃ payload, g.orchestrationAuditPayload = some payload ∧
    payload.schemaVersion = auditSchemaVersion ∧ Timed queuedAt now g.status payload.timing

/-- A status change is timed. -/
def ChangeTimed (queuedAt now : DateTime) (g g' : MediaGeneration) : Prop :=
  g'.status ≠ g.status → ∃ payload, g'.orchestrationAuditPayload = some payload ∧
    TransitionTimed queuedAt now payload.timing

theorem TimedRow.transitionRow (h : TimedRow queuedAt now g) (hle : now ≤ later)
    {context : Option Json} {attempt : Option Int} {jobContext : Option Json} {g' : MediaGeneration}
    (hg : transitionRow toStatus context attempt jobContext later g = some (.ok g')) :
    TimedRow queuedAt later g' ∧ ChangeTimed queuedAt later g g' := by
  obtain ⟨payload, hp, hschema, htimed⟩ := h
  rw [Orchestrator.transitionRow, currentPayload, hp, Option.getD_some] at hg
  split_ifs at hg with hsame hmay
  · cases hg
    exact ⟨⟨_, rfl, hschema, htimed.wait hle rfl⟩, fun hne => absurd rfl hne⟩
  · obtain ⟨safe, _, hg⟩ := Option.map_eq_some_iff.1 hg
    cases hg
    have hstarted : Timed queuedAt now g.status
      (applyRuntimeMetadata payload later attempt jobContext).timing := htimed
    obtain ⟨htimed', hchange⟩ := hstarted.transition hle hmay
    exact ⟨⟨_, rfl, hschema, htimed'⟩, fun _ => ⟨_, rfl, hchange⟩⟩
  · cases hg

theorem TimedRow.recordAttemptFailureRow (h : TimedRow queuedAt now g) (hle : now ≤ later)
    {code message : String} {retryable : Bool} {context : Option Json} {attempt : Option Int}
    {jobContext : Option Json} {g' : MediaGeneration}
    (hg : recordAttemptFailureRow code message retryable context attempt jobContext later g =
      some (.ok g')) :
    TimedRow queuedAt later g' ∧ ChangeTimed queuedAt later g g' := by
  obtain ⟨payload, hp, hschema, htimed⟩ := h
  rw [Orchestrator.recordAttemptFailureRow, hp] at hg
  obtain ⟨error, _, hg⟩ := Option.bind_eq_some_iff.1 hg
  obtain ⟨safe, _, hg⟩ := Option.bind_eq_some_iff.1 hg
  cases hg
  exact ⟨⟨_, rfl, hschema, htimed.wait hle rfl⟩, fun hne => absurd rfl hne⟩

theorem TimedRow.markFailedRow (h : TimedRow queuedAt now g) (hle : now ≤ later)
    {code message : String} {retryable : Bool} {context : Option Json} {attempt : Option Int}
    {jobContext : Option Json} {g' : MediaGeneration}
    (hg : markFailedRow code message retryable context attempt jobContext later g =
      some (.ok g')) :
    TimedRow queuedAt later g' ∧ ChangeTimed queuedAt later g g' := by
  obtain ⟨payload, hp, hschema, htimed⟩ := h
  rw [Orchestrator.markFailedRow, currentPayload, hp, Option.getD_some] at hg
  split at hg
  · cases hg
  · next hdone =>
    obtain ⟨error, _, hg⟩ := Option.bind_eq_some_iff.1 hg
    obtain ⟨payload', hpayload, hg⟩ := Option.bind_eq_some_iff.1 hg
    cases hg
    rw [failedTransition] at hpayload
    split at hpayload
    · next hopen =>
      obtain ⟨safe, _, hpayload⟩ := Option.map_eq_some_iff.1 hpayload
      cases hpayload
      have hstarted : Timed queuedAt now g.status
        (applyRuntimeMetadata payload later attempt jobContext).timing := htimed
      obtain ⟨htimed', hchange⟩ := hstarted.transition hle hopen.2
      exact ⟨⟨_, rfl, hschema, htimed'⟩, fun _ => ⟨_, rfl, hchange⟩⟩
    · next hfailed =>
      have hstatus : g.status = .failed := by
        revert hfailed hdone
        cases g.status <;> decide
      cases hpayload
      rw [hstatus] at htimed
      exact ⟨⟨_, rfl, hschema, htimed.wait hle rfl⟩, fun hne => absurd hstatus.symm hne⟩

/-- A call that is no reset, at a time that is not in the past. -/
theorem TimedRow.step {s : Audited} (h : TimedRow queuedAt now s.row) {st : AuditStep}
    (hle : now ≤ st.now) (hreset : ∀ prompt, st.call ≠ .resetForReprocessing prompt) :
    TimedRow queuedAt st.now (s.step st).row ∧
      ChangeTimed queuedAt st.now s.row (s.step st).row := by
  obtain hsame | ⟨g, hg, hstep⟩ := s.step_cases st
  · obtain ⟨payload, hp, hschema, htimed⟩ := h
    rw [hsame]
    exact ⟨⟨payload, hp, hschema, htimed.wait hle rfl⟩, fun hne => absurd rfl hne⟩
  · rw [hstep]
    cases hcall : st.call with
    | initializeAudit =>
      obtain ⟨payload, hp, hschema, htimed⟩ := h
      rw [hcall, AuditCall.result, initializeRow_of_schema hp hschema] at hg
      cases hg
      exact ⟨⟨payload, hp, hschema, htimed.wait hle rfl⟩, fun hne => absurd rfl hne⟩
    | transition toStatus context attempt jobContext =>
      rw [hcall] at hg
      exact h.transitionRow hle hg
    | recordAttemptFailure code message retryable context attempt jobContext =>
      rw [hcall] at hg
      exact h.recordAttemptFailureRow hle hg
    | markFailed code message retryable context attempt jobContext =>
      rw [hcall] at hg
      exact h.markFailedRow hle hg
    | resetForReprocessing prompt => exact absurd hcall (hreset prompt)

/-- A run without resets, at times that do not decrease. -/
theorem TimedRow.run {s : Audited} (h : TimedRow queuedAt now s.row) {steps : List AuditStep}
    (hclock : (now :: steps.map AuditStep.now).IsChain (· ≤ ·))
    (hreset : ∀ st ∈ steps, ∀ prompt, st.call ≠ .resetForReprocessing prompt) :
    ∃ later, TimedRow queuedAt later (s.run steps).row ∧
      (now :: steps.map AuditStep.now).getLast? = some later := by
  induction steps generalizing s now with
  | nil => exact ⟨now, h, rfl⟩
  | cons st rest ih =>
    rw [List.map_cons, List.isChain_cons_cons] at hclock
    rw [List.forall_mem_cons] at hreset
    obtain ⟨later, hrun, hlast⟩ := ih (h.step hclock.1 hreset.1).1 hclock.2 hreset.2
    exact ⟨later, hrun, by rw [List.map_cons, List.getLast?_cons_cons]; exact hlast⟩

/-- A payload that starts as `build_base_payload`, after a run of calls without
resets at times that do not decrease: the timing is in order after the last
call, and that call is timed if it was a transition. -/
theorem timing_of_run {g : MediaGeneration} (hqueued : g.status = .queued)
    (hbase : g.orchestrationAuditPayload = some (buildBasePayload queuedAt))
    (log : List HistoryEntry) (steps : List AuditStep) (st : AuditStep)
    (hclock : (queuedAt :: (steps ++ [st]).map AuditStep.now).IsChain (· ≤ ·))
    (hreset : ∀ st' ∈ steps ++ [st], ∀ prompt, st'.call ≠ .resetForReprocessing prompt)
    {s s' : Audited} (hs : s = Audited.run ⟨g, log⟩ steps) (hs' : s' = s.step st) :
    ∃ payload, s'.row.orchestrationAuditPayload = some payload ∧
      TimingOk queuedAt s'.row.status payload.timing ∧
      (s'.row.status ≠ s.row.status → TransitionTimed queuedAt st.now payload.timing) := by
  have hstart : TimedRow queuedAt queuedAt g := by
    refine ⟨_, hbase, rfl, ⟨⟨rfl, (fun d hd => by cases hd), ?_⟩, ?_, le_refl _, le_refl _⟩⟩
    · rw [hqueued]
      rfl
    · show (0 : Int) = queuedAt.timestampMillis - queuedAt.timestampMillis
      omega
  rw [List.map_append, ← List.cons_append] at hclock
  obtain ⟨hfirst, _, hle⟩ := List.isChain_append.1 hclock
  obtain ⟨hresets, hlastReset⟩ := List.forall_mem_append.1 hreset
  obtain ⟨later, hrun, hlast⟩ := TimedRow.run (s := ⟨g, log⟩) hstart hfirst hresets
  rw [← hs] at hrun
  obtain ⟨⟨payload, hp, _, htimed⟩, hchange⟩ := hrun.step (hle later hlast st.now rfl)
    (hlastReset st (List.mem_singleton_self _))
  rw [← hs'] at hp htimed hchange
  refine ⟨payload, hp, htimed.toTimingOk, fun hne => ?_⟩
  obtain ⟨payload', hp', htransition⟩ := hchange hne
  rw [hp] at hp'
  cases hp'
  exact htransition

/-- Two transitions with a failed attempt between them: 1500 ms queued and
2500 ms interpreting. -/
theorem timing_of_run_sample :
    ∃ payload : AuditPayload, totalOf payload.timing.statusDurationsMs = 4000 ∧
      TransitionTimed 0 4000000000 payload.timing := by
  let g : MediaGeneration :=
    { CreateInput.toRow asciiPlatform ⟨7, "fotosintesis", none, none, none, {}⟩ ⟨0⟩ with
      orchestrationAuditPayload := some (buildBasePayload 0) }
  let steps : List AuditStep :=
    [⟨.transition .interpreting none (some 1) none, 1500000000, false⟩,
      ⟨.recordAttemptFailure "E" "timeout" true none (some 1) none, 2000000000, false⟩]
  let st : AuditStep := ⟨.transition .classified none (some 2) none, 4000000000, false⟩
  have hne : ((Audited.run ⟨g, []⟩ steps).step st).row.status ≠
      (Audited.run ⟨g, []⟩ steps).row.status := by
    decide +kernel
  obtain ⟨payload, _, _, htransition⟩ := timing_of_run (g := g) rfl rfl [] steps st
    (by decide +kernel)
    (fun st' hst' prompt he => by
      simp only [steps, List.cons_append, List.nil_append, List.mem_cons, List.not_mem_nil,
        or_false] at hst'
      obtain rfl | rfl | rfl := hst' <;> cases he)
    rfl rfl
  refine ⟨payload, ?_, htransition hne⟩
  have htimed := htransition hne
  have hsum := htimed.sum
  rw [htimed.total, htimed.last] at hsum
  exact (Option.some.inj hsum).symm

end KlassGateway
