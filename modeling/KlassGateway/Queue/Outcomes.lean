import KlassGateway.Queue.Wire
/-!
# What the workers make of the outcomes

Model of `Worker::run` in `queue/worker.rs` and its tasks as they act on the queue,
for any number of workers and of jobs, with every Redis call a success.  What
`process` does is not looked into: its outcome is part of an event.

* `settle` is what a task does after its run, as a list of commands.
* `step` is one step of the queue.  `enqueue` comes from a handler, `createGroup`,
  `read` and `claim` from a worker, and the others from a task.
* Redis is empty at first.  The handlers do not wait for a worker, so a job may be
  enqueued before the consumer group exists.
* `JobEvent` is what there is to see of a job.  The log of a run of the queue has them
  in their order, each with the number of its job.

The job of a message is the one that was enqueued with it; a task adds its message to
the job of its own entry.  No text that is read or written depends on it.

The backoff of a retry only delays its task.
-/

namespace KlassGateway.Queue.Wire

open Lib

/-! ## A task after its run -/

/-- A command of a task, before the clock is read. -/
inductive Act where
  | xack
  | xadd
  | sendToDlq (attempt : Int) (errorCode errorMessage : String)
  deriving DecidableEq

variable (P : Platform)

/-- The match on the result of `process`. -/
def settle (entry : StreamEntry) : Except String Unit → List Act
  | .ok () => [.xack]
  | .error errorMsg =>
    if !isRetryableError P errorMsg then
      [.sendToDlq entry.attempt "PERMANENT_ERROR" errorMsg, .xack]
    else if maxTries < entry.attempt + 1 then
      [.sendToDlq (entry.attempt + 1) "WORKFLOW_FAILED" errorMsg, .xack]
    else [.xack, .xadd]

/-- The payload of a dead letter. -/
def dlqPayloadText (generationId : String) (attempt : Int) (errorCode errorMessage : String)
    (movedAt retryMovedAt : DateTime) : String :=
  P.jsonText (.obj [
    ("generation_id", generationId), ("attempt", attempt), ("error_code", errorCode),
    ("error_message", errorMessage), ("moved_to_dlq_at", P.rfc3339 movedAt),
    ("retry_context", .obj [
      ("generation_id", generationId), ("attempt", attempt), ("error", errorMessage),
      ("dlq_moved_at", P.rfc3339 retryMovedAt), ("max_retries", (3 : Int))])])

theorem dlqPayloadText_toText (generationId : Uuid) (attempt : Int)
    (errorCode errorMessage : String) (movedAt retryMovedAt : DateTime) :
    dlqPayloadText P generationId.toText attempt errorCode errorMessage movedAt retryMovedAt =
      P.jsonText (dlqPayload P generationId attempt errorCode errorMessage movedAt retryMovedAt) :=
  rfl

/-! ## The queue -/

/-- An entry of the job stream, with the number of its job. -/
structure Message where
  fields : Fields
  job : Nat

/-- Where a task is: `process` runs, or these commands are left. -/
inductive Stage where
  | running
  | settling (acts : List Act)
  deriving DecidableEq

/-- A task and what it was spawned with. -/
structure Task where
  entry : StreamEntry
  job : Nat
  stage : Stage

/-- A job: the generation id and the job id that were enqueued, and whether the
consumer group was there. -/
structure Submission where
  generationId : String
  jobId : String
  grouped : Bool
  deriving DecidableEq

/-- The queue with the tasks of its workers, and the jobs. -/
structure State where
  jobs : Stream Message := {}
  dlq : Stream Fields := {}
  tasks : List Task := []
  submitted : List Submission := []

/-- What happens next. -/
inductive Event where
  /-- A handler enqueues a job, with attempt 1 as every handler does. -/
  | enqueue (generationId jobId : String) (now : DateTime)
  /-- A worker starts: `create_consumer_group`, where `BUSYGROUP` is no error. -/
  | createGroup
  | read (consumer : String)
  | claim (consumer : String) (entryId : Nat)
  /-- The run of task `i` ends. -/
  | finish (i : Nat) (result : Except String Unit)
  /-- Task `i` sends its next command. -/
  | act (i : Nat) (now retryNow : DateTime)

/-- What there is to see of a job. -/
inductive JobEvent where
  | added (entryId : String) (fields : Fields)
  | ran (entryId : String) (result : Except String Unit)
  | acked (entryId : String)
  | letter (fields : Fields)

/-- The log of a run of the queue. -/
abbrev Log := List (Nat × JobEvent)

namespace State

/-- `XADD` to the job stream. -/
def add (s : State) (fields : Fields) (job : Nat) : Log × State :=
  ([(job, .added (entryIdText (s.jobs.add ⟨fields, job⟩).1) fields)],
    { s with jobs := (s.jobs.add ⟨fields, job⟩).2 })

/-- `XACK`, by the text of the id. -/
def xack (s : State) (entryId : String) (job : Nat) : Log × State :=
  ([(job, .acked entryId)],
    { s with jobs := s.jobs.mapGroup fun g =>
      { g with pending := g.pending.filter fun p => entryIdText p.id ≠ entryId } })

/-- `XADD` to the dead-letter stream. -/
def addLetter (s : State) (fields : Fields) (job : Nat) : Log × State :=
  ([(job, .letter fields)], { s with dlq := (s.dlq.add fields).2 })

/-- A task goes on. -/
def setTask (s : State) (i : Nat) (t : Task) : State := { s with tasks := s.tasks.set i t }

end State

/-- The tasks for the entries that a read has delivered. -/
def spawn (entries : List (Lib.StreamEntry Message)) : List Task :=
  entries.zipWith (fun e entry => ⟨entry, e.fields.job, .running⟩)
    (readMessages (readReply (entries.map fun e => (e.id, e.fields.fields))))

/-- A command of a task. -/
def perform (s : State) (t : Task) (now retryNow : DateTime) : Act → Log × State
  | .xack => s.xack t.entry.id t.job
  | .xadd => s.add (reenqueueFields t.entry (P.rfc3339 now)) t.job
  | .sendToDlq attempt errorCode errorMessage =>
    s.addLetter (dlqFields t.entry.generationId attempt
      (dlqPayloadText P t.entry.generationId attempt errorCode errorMessage now retryNow)) t.job

/-- One step of the queue, with what there is to see of it. -/
def step (s : State) : Event → Option (Log × State)
  | .enqueue generationId jobId now =>
    let submission : Submission := ⟨generationId, jobId, s.jobs.group.isSome⟩
    some ({ s with submitted := s.submitted ++ [submission] }.add
      (enqueueFields generationId jobId 1 (P.rfc3339 now)) s.submitted.length)
  | .createGroup => some ([], { s with jobs := s.jobs.createGroup.getD s.jobs })
  | .read consumer => (s.jobs.readGroup consumer batchSize).map fun (entries, jobs) =>
    ([], { s with jobs, tasks := s.tasks ++ spawn entries })
  | .claim consumer entryId => some ([], { s with jobs := s.jobs.claim consumer entryId })
  | .finish i result =>
    match s.tasks[i]? with
    | some ⟨entry, job, .running⟩ =>
      some ([(job, .ran entry.id result)], s.setTask i ⟨entry, job, .settling (settle P entry result)⟩)
    | _ => none
  | .act i now retryNow =>
    match s.tasks[i]? with
    | some ⟨entry, job, .settling (a :: acts)⟩ =>
      some (perform P (s.setTask i ⟨entry, job, .settling acts⟩) ⟨entry, job, .settling acts⟩ now retryNow a)
    | _ => none

/-- The runs of the queue with their logs. -/
inductive Run (s : State) : Log → State → Prop
  | refl : Run s [] s
  | step {log new : Log} {t u : State} {e : Event} (h : Run s log t)
      (hstep : step P t e = some (new, u)) : Run s (log ++ new) u

/-- The run of these events, if each is possible. -/
def play (s : State) : List Event → Option (Log × State)
  | [] => some ([], s)
  | e :: events =>
    (step P s e).bind fun (new, t) => (play t events).map fun (log, u) => (new ++ log, u)

end KlassGateway.Queue.Wire
