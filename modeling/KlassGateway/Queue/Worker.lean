import KlassGateway.Llm.StepAdapters
import KlassGateway.MediaGen.PythonClient
/-!
# The queue service, the dead-letter service and the worker

Model of `queue/redis_streams.rs`, `queue/dead_letter.rs` and the task body,
`claim_pending` and the error classes of `queue/worker.rs`.  The read of
`read_messages` spawns the tasks, so it is an arrival of the system and not a
program.

`let _ =` on a fallible call is `attempt` here.  The backoff sleep and the
circuit breaker only delay calls, and any delay is a possible interleaving.
-/

namespace KlassGateway.Queue

open Lib Db Orchestrator

/-! ## QueueService -/

/-- `create_consumer_group`: an existing group is not an error. -/
def createConsumerGroup : GatewayResult String Unit := do
  let _ ← command .connect
  match ← resultOf (command .xgroupCreate) with
  | .ok () => return
  | .error message =>
    if Text.contains message "BUSYGROUP" then return
    else throw message

/-- `QueueService::enqueue`. -/
def enqueue (generationId jobId : Uuid) (attempt : Int) : GatewayResult String Nat := do
  let _ ← command .connect
  let enqueuedAt ← utcNow
  command (.xadd { generationId, jobId := some jobId, attempt, enqueuedAt })

/-! ## DeadLetterService -/

/-- `xadd_dlq`. -/
def xaddDlq (generationId : Uuid) (attempt : Int) (payload : Json) : GatewayResult String Nat := do
  let _ ← command .connect
  command (.xaddDlq { generationId, attempt, payload })

variable (P : Platform)

/-- The payload of a dead letter, with its retry context. -/
def dlqPayload (generationId : Uuid) (attempt : Int) (errorCode errorMessage : String)
    (movedAt retryMovedAt : DateTime) : Json :=
  .obj [
    ("generation_id", generationId.toText), ("attempt", attempt), ("error_code", errorCode),
    ("error_message", errorMessage), ("moved_to_dlq_at", P.rfc3339 movedAt),
    ("retry_context", .obj [
      ("generation_id", generationId.toText), ("attempt", attempt), ("error", errorMessage),
      ("dlq_moved_at", P.rfc3339 retryMovedAt), ("max_retries", (3 : Int))])]

/-- The job context of a dead letter. -/
def dlqJobContext (entry : Except String Nat) : Json :=
  .obj [
    ("connection", "redis"), ("queue", "klass:media-gen-dlq"), ("tries", (3 : Int)),
    ("dlq_entry_id", match entry with
      | .ok id => .str (toString id)
      | .error _ => .null)]

/-- `send_to_dlq`: the row is marked failed whether or not the dead letter was
stored. -/
def sendToDlq (generationId : Uuid) (attemptNo : Int) (errorCode errorMessage : String) :
    Gateway Unit := do
  let movedAt ← utcNow
  let retryMovedAt ← utcNow
  let payload := dlqPayload P generationId attemptNo errorCode errorMessage movedAt retryMovedAt
  let entry ← attempt (xaddDlq generationId attemptNo payload)
  let _ ← attempt (markFailed generationId errorCode errorMessage false (some payload)
    (some attemptNo) (some (dlqJobContext entry)))

/-! ## The worker -/

/-- `MAX_TRIES`. -/
def maxTries : Int := 3

/-- `is_retryable_error`. -/
def isRetryableError (errorMsg : String) : Bool :=
  let lower := P.toLowercase errorMsg
  if Text.contains lower "artifact_invalid" then false
  else if Text.contains lower "incoming request payload failed validation" then false
  else if Text.contains lower "contract validation failed" && !Text.contains lower "timeout" &&
      !Text.contains lower "connection" then false
  else if Text.contains lower "missing required" || Text.contains lower "validation error" then
    false
  else true

/-- The job context that a run hands to the audit trail. -/
def workerJobContext : Json :=
  .obj [
    ("connection", "redis"), ("queue", "klass:media-gen"), ("tries", maxTries),
    ("timeout_seconds", (300 : Int)), ("backoff_seconds", (10 : Int))]

/-- `XACK` of the entry, on a connection that may not be there. -/
def ackEntry (entryId : Nat) : Gateway Unit := do
  match ← attempt (command .connect) with
  | .error _ => return
  | .ok () =>
    let _ ← attempt (command (.xack entryId))

/-- The retry branch: `XACK`, then `XADD` with the next attempt. -/
def reenqueue (entryId : Nat) (message : JobMessage) : Gateway Unit := do
  match ← attempt (command .connect) with
  | .error _ => return
  | .ok () =>
    let _ ← attempt (command (.xack entryId))
    let enqueuedAt ← utcNow
    let _ ← attempt (command (.xadd { message with attempt := message.attempt + 1, enqueuedAt }))

/-- What the task does with the error of its run. -/
def handleFailure (entryId : Nat) (message : JobMessage) (errorMsg : String) : Gateway Unit := do
  if !isRetryableError P errorMsg then
    sendToDlq P message.generationId message.attempt "PERMANENT_ERROR" errorMsg
    ackEntry entryId
  else if maxTries < message.attempt + 1 then
    sendToDlq P message.generationId (message.attempt + 1) "WORKFLOW_FAILED" errorMsg
    ackEntry entryId
  else
    reenqueue entryId message

/-- The task that `Worker::run` spawns for an entry. -/
def workerTask (steps : Steps) (entryId : Nat) (message : JobMessage) : Gateway Unit := do
  match ← attempt (process P steps message.generationId message.jobId (some message.attempt)
      (some workerJobContext)) with
  | .ok () => ackEntry entryId
  | .error e => handleFailure P entryId message e.toText

/-- `BATCH_SIZE`. -/
def batchSize : Nat := 10

/-- `XCLAIM` of each listed entry. -/
def claimAll (consumer : String) : List Nat → Gateway Unit
  | [] => pure ()
  | entryId :: rest => do
    let _ ← attempt (command (.xclaim consumer entryId))
    claimAll consumer rest

/-- `claim_pending`: the replies of `XCLAIM` are dropped. -/
def claimPending (consumer : String) : GatewayResult String Unit := do
  let _ ← command .connect
  let entryIds ← command (.xpending batchSize)
  claimAll consumer entryIds

/-- The steps that the worker is started with. -/
def workerSteps (webhookBaseUrl : String) : Steps where
  interpret := Llm.interpretStep
  draft := Llm.draftStep P
  submitJob := MediaGen.generateStep webhookBaseUrl
  publish := MediaGen.publishStep
  compose := Llm.composeStep

end KlassGateway.Queue
