import KlassGateway.Db.MediaGenerations
/-!
# Audit trail transactions

Model of `AuditTrailService` in `orchestrator/audit_trail.rs`.  Every method
runs one transaction on one row under `SELECT ... FOR UPDATE`, so each is a
function of the row here.  The outer `none` is a panic inside the transaction,
which rolls it back.

The lemmas give for each transaction the row that it leaves.
-/

namespace KlassGateway.Orchestrator

open Lib Db

/-- `AuditTrailError`. -/
inductive AuditTrailError where
  | notFound (generationId : Uuid)
  | invalidTransition (fromStatus toStatus : MediaGenerationStatus)
  | database (e : SqlxError)
  | terminal (generationId : Uuid) (status : MediaGenerationStatus)
  deriving DecidableEq

namespace AuditTrailError

/-- `Display` of `AuditTrailError`. -/
def toText : AuditTrailError → String
  | notFound g => "generation not found: " ++ g.toText
  | invalidTransition s t => "invalid transition from " ++ s.asStr ++ " to " ++ t.asStr
  | database e => "database error: " ++ e.toText
  | terminal g s => "generation " ++ g.toText ++ " is already in terminal state " ++ s.asStr

end AuditTrailError

/-- The payload of the row, or a fresh one. -/
def currentPayload (g : MediaGeneration) (now : DateTime) : AuditPayload :=
  g.orchestrationAuditPayload.getD (buildBasePayload now)

/-- `initialize`: seed the payload unless one is there. -/
def initializeRow (now : DateTime) (g : MediaGeneration) : MediaGeneration :=
  match g.orchestrationAuditPayload with
  | some payload =>
    if payload.schemaVersion = auditSchemaVersion then g
    else { g with orchestrationAuditPayload := some (buildBasePayload now), updatedAt := now }
  | none => { g with orchestrationAuditPayload := some (buildBasePayload now), updatedAt := now }

/-- `transition`. -/
def transitionRow (toStatus : MediaGenerationStatus) (context : Option Json)
    (attempt : Option Int) (jobContext : Option Json) (now : DateTime) (g : MediaGeneration) :
    Option (Except AuditTrailError MediaGeneration) :=
  let payload := applyRuntimeMetadata (currentPayload g now) now attempt jobContext
  if g.status = toStatus then
    -- A re-run of the same status only clears the errors.
    let payload := { payload with currentStatus := toStatus, latestError := none }
    some (.ok { g with
      orchestrationAuditPayload := some payload
      errorCode := none
      errorMessage := none
      updatedAt := now })
  else if g.status.canTransition toStatus then
    (filterContext context).map fun safe =>
      let payload := applyTransitionTiming payload g.status toStatus now
      let payload := { payload with currentStatus := toStatus, latestError := none }
      let payload := appendHistory payload
        (.statusTransition (some g.status) toStatus (attempt.getD 0) now safe none)
      .ok { g with
        status := toStatus
        orchestrationAuditPayload := some payload
        errorCode := none
        errorMessage := none
        updatedAt := now }
  else some (.error (.invalidTransition g.status toStatus))

/-- The error entry of a failure. -/
def failureError (errorCode errorMessage : String) (retryable : Bool) (context : Option Json) :
    Option AuditError :=
  (sanitizeMessage errorMessage).map fun message =>
    { errorCode, message, retryable, safeContext := safeThrowableContext context }

/-- `record_attempt_failure`.  The column is read into a non-nullable value,
so a row without a payload is a decoding error. -/
def recordAttemptFailureRow (errorCode errorMessage : String) (retryable : Bool)
    (context : Option Json) (attempt : Option Int) (jobContext : Option Json) (now : DateTime)
    (g : MediaGeneration) : Option (Except AuditTrailError MediaGeneration) :=
  match g.orchestrationAuditPayload with
  | none => some (.error (.database (.other
      "error occurred while decoding column 0: unexpected null; try decoding as an `Option`")))
  | some payload => do
    let error ← failureError errorCode errorMessage retryable context
    let safe ← filterContext context
    let payload := applyRuntimeMetadata payload now attempt jobContext
    let payload := { payload with
      latestError := some error
      timing := { payload.timing with
        totalDurationMs := some (elapsedMs payload.timing.queuedAt now) } }
    let payload := appendHistory payload
      (.attemptFailed payload.currentStatus (attempt.getD 0) now safe error)
    return .ok { g with orchestrationAuditPayload := some payload, updatedAt := now }

/-- The timing and the history entry of `mark_failed`, which a row that has
failed already does not get again. -/
def failedTransition (payload : AuditPayload) (fromStatus : MediaGenerationStatus)
    (error : AuditError) (context : Option Json) (attempt : Option Int) (now : DateTime) :
    Option AuditPayload :=
  if fromStatus ≠ .failed ∧ fromStatus.canTransition .failed then
    (filterContext context).map fun safe =>
      appendHistory (applyTransitionTiming payload fromStatus .failed now)
        (.statusTransition (some fromStatus) .failed (attempt.getD 0) now safe (some error))
  else some payload

/-- `mark_failed`: refuses a completed or cancelled row, and sets both status
columns of any other. -/
def markFailedRow (errorCode errorMessage : String) (retryable : Bool) (context : Option Json)
    (attempt : Option Int) (jobContext : Option Json) (now : DateTime) (g : MediaGeneration) :
    Option (Except AuditTrailError MediaGeneration) :=
  if g.status = .completed ∨ g.status = .cancelled then some (.error (.terminal g.id g.status))
  else do
    let payload := applyRuntimeMetadata (currentPayload g now) now attempt jobContext
    let error ← failureError errorCode errorMessage retryable context
    let payload ← failedTransition payload g.status error context attempt now
    return .ok { g with
      status := .failed
      generationStatus := some .failed
      orchestrationAuditPayload := some
        { payload with currentStatus := .failed, latestError := some error }
      errorCode := some errorCode
      errorMessage := some error.message
      generationErrorCode := some errorCode
      generationErrorMessage := some error.message
      updatedAt := now }

/-! ## The rows that the transactions leave -/

variable {g g' : MediaGeneration} {now : DateTime} {context : Option Json} {attempt : Option Int}
  {jobContext : Option Json} {toStatus : MediaGenerationStatus} {code message : String}
  {retryable : Bool}

/-- `initialize` touches the payload only. -/
theorem initializeRow_eq (now : DateTime) (g : MediaGeneration) :
    ∃ p u, initializeRow now g = { g with orchestrationAuditPayload := p, updatedAt := u } := by
  unfold initializeRow
  split
  · split
    · exact ⟨_, _, rfl⟩
    · exact ⟨_, _, rfl⟩
  · exact ⟨_, _, rfl⟩

/-- A payload that is there stays. -/
theorem initializeRow_of_schema {payload : AuditPayload}
    (h : g.orchestrationAuditPayload = some payload)
    (hschema : payload.schemaVersion = auditSchemaVersion) (now : DateTime) :
    initializeRow now g = g := by
  unfold initializeRow
  rw [h]
  exact if_pos hschema

/-- A successful transition sets the status, by an edge of the matrix or as a
re-run, and besides it the payload and the error columns only. -/
theorem transitionRow_ok
    (h : transitionRow toStatus context attempt jobContext now g = some (.ok g')) :
    (g.status = toStatus ∨ g.status.canTransition toStatus) ∧
      ∃ p, g' = { g with
        status := toStatus
        orchestrationAuditPayload := some p
        errorCode := none
        errorMessage := none
        updatedAt := now } := by
  rw [transitionRow] at h
  split_ifs at h with hsame hmay
  · cases h
    exact ⟨.inl hsame, _, by rw [hsame]⟩
  · obtain ⟨safe, _, hg⟩ := Option.map_eq_some_iff.1 h
    cases hg
    exact ⟨.inr hmay, _, rfl⟩
  · cases h

/-- A transition is refused exactly when it is neither a re-run nor an edge of
the matrix. -/
theorem transitionRow_error {e : AuditTrailError}
    (h : transitionRow toStatus context attempt jobContext now g = some (.error e)) :
    e = .invalidTransition g.status toStatus ∧ g.status ≠ toStatus ∧
      g.status.canTransition toStatus = false := by
  rw [transitionRow] at h
  split_ifs at h with hsame hmay
  · cases h
  · obtain ⟨safe, _, hg⟩ := Option.map_eq_some_iff.1 h
    cases hg
  · cases h
    exact ⟨rfl, hsame, by simpa using hmay⟩

/-- `mark_failed` succeeds on a row that is neither completed nor cancelled,
and sets both status columns. -/
theorem markFailedRow_ok
    (h : markFailedRow code message retryable context attempt jobContext now g =
      some (.ok g')) :
    (g.status ≠ .completed ∧ g.status ≠ .cancelled) ∧
      ∃ p text, g' = { g with
        status := .failed
        generationStatus := some .failed
        orchestrationAuditPayload := some p
        errorCode := some code
        errorMessage := some text
        generationErrorCode := some code
        generationErrorMessage := some text
        updatedAt := now } := by
  rw [markFailedRow] at h
  split at h
  · cases h
  · next hdone =>
    rw [not_or] at hdone
    obtain ⟨error, _, h⟩ := Option.bind_eq_some_iff.1 h
    obtain ⟨payload, _, h⟩ := Option.bind_eq_some_iff.1 h
    cases h
    exact ⟨hdone, _, _, rfl⟩

end KlassGateway.Orchestrator
