import KlassGateway.Llm.EnrichPrompt
import KlassGateway.Orchestrator.Submission
import KlassGateway.Queue.Worker
/-!
# The request handlers

Model of `create` and `regenerate` in `api/rest/media_generations.rs`,
`confirm` and `skip_clarification` in `api/rest/clarification.rs`, and
`webhook_handler` in `api/rest/media_webhook.rs`, with the repository calls
they make.

A webhook arrives here with its signature verified and its body parsed, so the
handler starts at the idempotency check.  The relations that a response embeds
are left out.
-/

namespace KlassGateway.Api

open Lib Db Orchestrator Queue MediaGen

/-- What the handlers share: the text functions, whether a Redis pool is
configured, and the address of the webhook. -/
structure AppState where
  platform : Platform
  redisPool : Bool
  webhookBaseUrl : String

/-- `Principal`. -/
structure Principal where
  userId : Int
  role : String

/-- `AppError`, as far as the handlers build it. -/
inductive AppError where
  | validation (message : String)
  | notFound (message : String)
  | unauthorized (message : String)
  | forbidden (message : String)
  | conflict (message : String)
  | internal (message : String)
  | anyhow (message : String)
  | rateLimited
  deriving DecidableEq

/-- A `202` response about a generation: the message, and the status and the
job id that the client is told. -/
structure Accepted where
  message : String
  generationId : Uuid
  jobId : Option Uuid
  status : String

/-! ## Repository calls -/

/-- `find_by_id_for_teacher`. -/
def findByIdForTeacher (id : Uuid) (teacherId : Int) :
    GatewayResult String (Option MediaGeneration) := do
  let row ← mapErr
    (fun e : SqlxError => "failed to fetch media generation " ++ id.toText ++ ": " ++ e.toText)
    (query (.findById id))
  return row.filter fun g => g.teacherId == teacherId

/-- An `UPDATE ... RETURNING` of the repository, with its error texts. -/
def updateRow (id : Uuid) (u : RowUpdate) (failure absent : String) : GatewayResult String Unit := do
  match ← mapErr (fun e : SqlxError => failure ++ ": " ++ e.toText)
    (query (.onRow id (.update u))) with
  | some _ => return
  | none => throw absent

/-- The error of an update of a row that is not there. -/
def rowNotFound (id : Uuid) : String := "media generation " ++ id.toText ++ " not found"

/-- `update_generation_job_status`. -/
def updateGenerationJobStatus (id jobId : Uuid) (status : GenerationStatus) :
    GatewayResult String Unit :=
  updateRow id (.generationJobStatus (some jobId) status)
    ("failed to update generation job status for " ++ id.toText) (rowNotFound id)

/-- `update_s3_metadata`. -/
def updateS3Metadata (id : Uuid) (objectKey presignedUrl : String) (expiresAt : DateTime) :
    GatewayResult String Unit :=
  updateRow id (.s3Metadata objectKey presignedUrl expiresAt)
    ("failed to update S3 metadata for " ++ id.toText) (rowNotFound id)

/-- `update_payloads`. -/
def updatePayloads (id : Uuid) (payload : UpdatePayloadsPayload) : GatewayResult String Unit :=
  updateRow id (.payloads payload) "failed to update media generation payloads"
    "media generation not found"

/-- `update_generation_error`. -/
def updateGenerationError (id : Uuid) (code message : String) : GatewayResult String Unit :=
  updateRow id (.generationError code message)
    ("failed to update generation error for " ++ id.toText) (rowNotFound id)

/-- `update_clarification_state`. -/
def updateClarificationState (id : Uuid) (state : Option Json) (clarifiedAt : Option DateTime)
    (skipped : Bool) : GatewayResult String Unit :=
  updateRow id (.clarificationState state clarifiedAt skipped)
    ("failed to update clarification state for " ++ id.toText) (rowNotFound id)

/-- `reset_for_reprocessing`. -/
def resetForReprocessing (id : Uuid) (newRawPrompt : String) : GatewayResult String Unit :=
  updateRow id (.resetForReprocessing newRawPrompt)
    ("failed to reset generation for reprocessing " ++ id.toText) (rowNotFound id)

/-- An error that the client sees as internal. -/
def internal {α : Type} (context : String) (p : GatewayResult String α) : GatewayResult AppError α :=
  mapErr (fun e => .internal (context ++ e)) p

/-! ## Shared steps -/

variable (A : AppState)

/-- `require_teacher`. -/
def requireTeacher (principal : Principal) : GatewayResult AppError Unit :=
  if principal.role ≠ "teacher" then
    throw (.forbidden ("requires role 'teacher', user has '" ++ principal.role ++ "'"))
  else pure ()

/-- The rate limit of a user, which needs Redis. -/
def checkRateLimit (principal : Principal) (endpoint : String) : GatewayResult AppError Unit := do
  if A.redisPool then
    if ← checkUserRateLimit principal.userId endpoint then throw .rateLimited
    else return
  else return

/-- The hand-over to the queue: its failure is a warning. -/
def handOver (generationId jobId : Uuid) : Gateway Unit := do
  if A.redisPool then
    let _ ← attempt (enqueue generationId jobId 1)
  else return

/-- A job id for a generation: draw it, store it with the status `pending`,
and hand the job over. -/
def startJob (generationId : Uuid) : GatewayResult AppError Uuid := do
  let jobId ← newV4
  internal "failed to set generation job status: "
    (updateGenerationJobStatus generationId jobId .pending)
  handOver A generationId jobId
  return jobId

/-- The job id of a row, or a fresh one that is stored nowhere. -/
def jobIdOr (g : MediaGeneration) : Gateway Uuid :=
  match g.generationJobId with
  | some jobId => pure jobId
  | none => newV4

/-- `create_or_reuse` in a handler. -/
def submit (input : CreateInput) : GatewayResult AppError CreateResult :=
  mapErr (fun e : SubmissionError =>
    AppError.internal ("failed to create media generation: " ++ e.toText))
    (createOrReuse A.platform input)

/-! ## `POST /media-generations` -/

/-- `CreateMediaGenerationRequest`. -/
structure CreateRequest where
  rawPrompt : String
  preferredOutputType : Option String := none
  subjectId : Option Int := none
  subSubjectId : Option Int := none

/-- The answer about a generation that was there before. -/
def answerExisting (principal : Principal) (generationId : Uuid) :
    GatewayResult AppError Accepted := do
  match ← internal "failed to fetch created generation: "
    (findByIdForTeacher generationId principal.userId) with
  | none => throw (.internal "created generation not found")
  | some g =>
    let jobId ← jobIdOr g
    return {
      message := "Generasi media berhasil dibuat."
      generationId
      jobId := some jobId
      status := g.status.asStr }

/-- `create`. -/
def create (principal : Principal) (payload : CreateRequest) : GatewayResult AppError Accepted := do
  requireTeacher principal
  checkRateLimit A principal "media-generations:create"
  let result ← submit A
    { teacherId := principal.userId
      rawPrompt := payload.rawPrompt
      preferredOutputType := payload.preferredOutputType
      subjectId := payload.subjectId
      subSubjectId := payload.subSubjectId }
  if result.wasCreated then
    let jobId ← startJob A result.id
    return {
      message := "Generasi media berhasil dibuat dan sedang diproses."
      generationId := result.id
      jobId := some jobId
      status := "pending" }
  else answerExisting principal result.id

/-! ## `POST /media-generations/{id}/regenerate` -/

/-- The job of a regeneration goes to the renderer at once; every failure is a
warning. -/
def startRegeneration (generationId : Uuid) : Gateway Unit := do
  let jobId ← newV4
  let _ ← attempt (updateGenerationJobStatus generationId jobId .pending)
  let _ ← attempt (submitJob A.webhookBaseUrl generationId jobId)

/-- `create_regeneration` in its handler. -/
def submitRegeneration (parentId : Uuid) (additionalPrompt : String) :
    GatewayResult AppError Uuid :=
  mapErr (fun e : SubmissionError =>
    AppError.internal ("failed to create regeneration: " ++ e.toText))
    (createRegeneration A.platform parentId additionalPrompt)

/-- The answer about a regeneration. -/
def answerRegeneration (principal : Principal) (generationId : Uuid) :
    GatewayResult AppError Accepted := do
  match ← internal "failed to fetch regeneration: "
    (findByIdForTeacher generationId principal.userId) with
  | none => throw (.internal "regeneration not found")
  | some g => return {
      message := "Regenerasi media berhasil dibuat."
      generationId := g.id
      jobId := g.generationJobId
      status := g.status.asStr }

/-- `regenerate`. -/
def regenerate (principal : Principal) (id : Uuid) (additionalPrompt : String) :
    GatewayResult AppError Accepted := do
  requireTeacher principal
  checkRateLimit A principal "media-generations:regenerate"
  match ← internal "" (findByIdForTeacher id principal.userId) with
  | none => throw (.notFound "media generation not found")
  | some parent =>
    if !parent.status.isTerminal then
      throw (.validation ("parent generation status '" ++ parent.status.asStr ++
        "' is not terminal — must be completed, failed, or cancelled"))
    else
      let newId ← submitRegeneration A id additionalPrompt
      startRegeneration A newId
      answerRegeneration principal newId

/-! ## Clarification -/

/-- The answer about a generation that is terminal already. -/
def answerTerminal (g : MediaGeneration) : GatewayResult AppError Accepted := do
  let jobId ← jobIdOr g
  return {
    message := "Generasi media sudah dalam proses."
    generationId := g.id
    jobId := some jobId
    status := g.status.asStr }

/-- Reset a generation, store the clarification state and start a new job. -/
def reprocess (generationId : Uuid) (prompt : String) (state : Json) (skipped : Bool)
    (message : String) : GatewayResult AppError Accepted := do
  internal "failed to reset generation for reprocessing: "
    (resetForReprocessing generationId prompt)
  let clarifiedAt ← utcNow
  internal "failed to update clarification state: "
    (updateClarificationState generationId (some state) (some clarifiedAt) skipped)
  let jobId ← startJob A generationId
  return { message, generationId, jobId := some jobId, status := "pending" }

/-- `ConfirmRequest`. -/
structure ConfirmRequest where
  generationId : Uuid
  enrichedPrompt : String
  answers : List (String × String) := []
  subjectId : Option Int := none
  subSubjectId : Option Int := none

/-- The reset branch of `confirm`. -/
def confirmReset (payload : ConfirmRequest) (generationId : Uuid) :
    GatewayResult AppError Accepted :=
  reprocess A generationId payload.enrichedPrompt
    (.obj [
      ("answers", .obj (payload.answers.map fun (field, value) => (field, .str value))),
      ("suggested_prompt", payload.enrichedPrompt),
      ("generation_id", payload.generationId.toText)])
    false "Generasi media berhasil dibuat dan sedang diproses."

/-- `confirm`. -/
def confirm (principal : Principal) (payload : ConfirmRequest) :
    GatewayResult AppError Accepted := do
  requireTeacher principal
  if Text.trim payload.enrichedPrompt = "" then
    throw (.validation "enriched_prompt tidak boleh kosong")
  else
    match ← internal "" (findByIdForTeacher payload.generationId principal.userId) with
    | some g =>
      if g.status.isTerminal then answerTerminal g
      else confirmReset A payload g.id
    | none =>
      let result ← submit A
        { teacherId := principal.userId
          rawPrompt := payload.enrichedPrompt
          preferredOutputType := some ((payload.answers.lookup "output_type").getD "auto")
          subjectId := payload.subjectId
          subSubjectId := payload.subSubjectId }
      confirmReset A payload result.id

/-- `skip_clarification`.  The prompt is enriched without answers. -/
def skipClarification (principal : Principal) (id : Uuid) : GatewayResult AppError Accepted := do
  requireTeacher principal
  match ← internal "" (findByIdForTeacher id principal.userId) with
  | none => throw (.notFound "media generation not found")
  | some g =>
    if g.status.isTerminal then answerTerminal g
    else
      let enrichedPrompt := Llm.enrichPrompt A.platform (fun _ => none) g.rawPrompt
      reprocess A id enrichedPrompt
        (.obj [("answers", .obj []), ("suggested_prompt", enrichedPrompt), ("skipped", true)])
        true "Generasi media berhasil dibuat (clarifikasi dilewati)."

/-! ## `POST /internal/media-generations/webhook` -/

/-- The object key of a completed job; a missing expiry is one hour from now. -/
def storeS3Metadata (generationId : Uuid) (payload : MediaWebhookPayload) :
    GatewayResult AppError Unit := do
  match payload.s3ObjectKey with
  | some objectKey =>
    let now ← utcNow
    internal "failed to update S3 metadata: " (updateS3Metadata generationId objectKey
      (payload.presignedUrl.getD "") (payload.expiresAt.getD (now + DateTime.hours 1)))
  | none => return

/-- The branch of a completed job. -/
def webhookCompleted (generationId : Uuid) (payload : MediaWebhookPayload) :
    GatewayResult AppError Unit := do
  storeS3Metadata generationId payload
  internal "failed to update payload: " (updatePayloads generationId
    { generatorServiceResponse := some (payload.toJson A.platform) })
  internal "failed to update generation status: "
    (updateGenerationJobStatus generationId payload.jobId .completed)

/-- The branch of a failed job. -/
def webhookFailed (generationId : Uuid) (payload : MediaWebhookPayload) :
    GatewayResult AppError Unit := do
  internal "failed to update generation error: " (updateGenerationError generationId
    (payload.errorCode.getD "UNKNOWN_ERROR")
    (payload.errorMessage.getD "no error message provided"))
  internal "failed to update generation status: "
    (updateGenerationJobStatus generationId payload.jobId .failed)

/-- The body of the `200` response of the webhook. -/
def webhookAnswer (generationId : Uuid) (last : String × Json) : Json :=
  .obj [("received", true), ("generation_id", generationId.toText), last]

/-- `find_by_job_id`. -/
def findByJobId (jobId : Uuid) : GatewayResult String (Option MediaGeneration) :=
  mapErr (fun e : SqlxError =>
    "failed to find media generation by job_id " ++ jobId.toText ++ ": " ++ e.toText)
    (query (.findByJobId jobId))

/-- `webhook_handler`, after the signature check. -/
def webhookHandler (payload : MediaWebhookPayload) : GatewayResult AppError Json := do
  match ← internal "failed to find generation by job_id: " (findByJobId payload.jobId) with
  | none => throw (.notFound ("no generation found for job_id " ++ payload.jobId.toText))
  | some g =>
    if g.generationStatus.any GenerationStatus.isFinal then
      return webhookAnswer g.id ("message", "duplicate callback ignored")
    else if payload.status = "completed" then
      webhookCompleted A g.id payload
      return webhookAnswer g.id ("status", payload.status)
    else if payload.status = "failed" then
      webhookFailed g.id payload
      return webhookAnswer g.id ("status", payload.status)
    else throw (.validation ("unsupported webhook status '" ++ payload.status ++
      "' — must be 'completed' or 'failed'"))

end KlassGateway.Api
