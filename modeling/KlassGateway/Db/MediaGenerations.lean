import KlassGateway.Orchestrator.AuditPayload
/-!
# The `media_generations` table

Model of `db/repositories/media_generations.rs` and of the other `UPDATE`
statements on the table: the row, and what each statement sets.

A statement is a value of `RowUpdate`, and `RowUpdate.apply` is its `SET`
clause.  Each is one atomic `UPDATE ... WHERE id = $1`.  The statements that
run inside a transaction with a row lock are in `Orchestrator.AuditTrail` and
`MediaGen.Publication`.
-/

namespace KlassGateway.Db

open Lib Orchestrator

/-- The values that the `CHECK` constraint allows in `generation_status`. -/
inductive GenerationStatus where
  | pending
  | processing
  | completed
  | failed
  deriving DecidableEq, Repr

namespace GenerationStatus

/-- The two values that end a render job. -/
def isFinal : GenerationStatus → Bool
  | completed | failed => true
  | _ => false

end GenerationStatus

/-- A row of `media_generations`. -/
structure MediaGeneration where
  id : Uuid
  generatedFromId : Option Uuid := none
  isRegeneration : Bool := false
  teacherId : Int
  subjectId : Option Int := none
  subSubjectId : Option Int := none
  topicId : Option Uuid := none
  contentId : Option Uuid := none
  recommendedProjectId : Option Int := none
  rawPrompt : String
  requestFingerprint : String
  activeDuplicateKey : Option String := none
  preferredOutputType : String := "auto"
  resolvedOutputType : Option String := none
  status : MediaGenerationStatus := .queued
  llmProvider : Option String := none
  llmModel : Option String := none
  generatorProvider : Option String := none
  generatorModel : Option String := none
  interpretationPayload : Option Json := none
  interpretationAuditPayload : Option Json := none
  generationSpecPayload : Option Json := none
  decisionPayload : Option Json := none
  orchestrationAuditPayload : Option AuditPayload := none
  deliveryPayload : Option Json := none
  generatorServiceResponse : Option Json := none
  storagePath : Option String := none
  fileUrl : Option String := none
  thumbnailUrl : Option String := none
  mimeType : Option String := none
  errorCode : Option String := none
  errorMessage : Option String := none
  generationJobId : Option Uuid := none
  generationStatus : Option GenerationStatus := none
  s3ObjectKey : Option String := none
  presignedDownloadUrl : Option String := none
  presignedUrlExpiresAt : Option DateTime := none
  generationErrorCode : Option String := none
  generationErrorMessage : Option String := none
  clarificationState : Option Json := none
  clarifiedAt : Option DateTime := none
  clarificationSkipped : Bool := false
  createdAt : DateTime := 0
  updatedAt : DateTime := 0

/-! ## Statements -/

/-- `UpdatePayloadsPayload`: the columns that are `Some` are set. -/
structure UpdatePayloadsPayload where
  interpretationPayload : Option Json := none
  interpretationAuditPayload : Option Json := none
  generationSpecPayload : Option Json := none
  decisionPayload : Option Json := none
  orchestrationAuditPayload : Option AuditPayload := none
  deliveryPayload : Option Json := none
  generatorServiceResponse : Option Json := none
  resolvedOutputType : Option String := none
  llmProvider : Option String := none
  llmModel : Option String := none
  generatorProvider : Option String := none
  generatorModel : Option String := none
  storagePath : Option String := none
  fileUrl : Option String := none
  thumbnailUrl : Option String := none
  mimeType : Option String := none
  errorCode : Option String := none
  errorMessage : Option String := none

/-- The `UPDATE` statements on a row. -/
inductive RowUpdate where
  /-- `update_payloads`. -/
  | payloads (payload : UpdatePayloadsPayload)
  /-- `update_generation_job_status`. -/
  | generationJobStatus (jobId : Option Uuid) (status : GenerationStatus)
  /-- `update_s3_metadata`. -/
  | s3Metadata (objectKey presignedUrl : String) (expiresAt : DateTime)
  /-- `update_generation_error`. -/
  | generationError (code message : String)
  /-- `update_clarification_state`. -/
  | clarificationState (state : Option Json) (clarifiedAt : Option DateTime) (skipped : Bool)
  /-- `reset_for_reprocessing`. -/
  | resetForReprocessing (newRawPrompt : String)
  /-- `ensure_generated`: the worker's mark after the submission. -/
  | markProcessing
  /-- `InterpretStepAdapter::interpret`. -/
  | interpretation (payload : Json) (llmProvider llmModel : String)
  /-- `DecisionService::resolve`. -/
  | decision (resolvedOutputType : String) (decisionPayload generationSpec : Json)
  /-- `ComposeStepAdapter::compose`. -/
  | delivery (payload : Json)

namespace RowUpdate

/-- The `SET` clause of the dynamic statement of `update_payloads`. -/
def applyPayloads (p : UpdatePayloadsPayload) (g : MediaGeneration) : MediaGeneration :=
  { g with
    interpretationPayload := p.interpretationPayload.or g.interpretationPayload
    interpretationAuditPayload := p.interpretationAuditPayload.or g.interpretationAuditPayload
    generationSpecPayload := p.generationSpecPayload.or g.generationSpecPayload
    decisionPayload := p.decisionPayload.or g.decisionPayload
    orchestrationAuditPayload := p.orchestrationAuditPayload.or g.orchestrationAuditPayload
    deliveryPayload := p.deliveryPayload.or g.deliveryPayload
    generatorServiceResponse := p.generatorServiceResponse.or g.generatorServiceResponse
    resolvedOutputType := p.resolvedOutputType.or g.resolvedOutputType
    llmProvider := p.llmProvider.or g.llmProvider
    llmModel := p.llmModel.or g.llmModel
    generatorProvider := p.generatorProvider.or g.generatorProvider
    generatorModel := p.generatorModel.or g.generatorModel
    storagePath := p.storagePath.or g.storagePath
    fileUrl := p.fileUrl.or g.fileUrl
    thumbnailUrl := p.thumbnailUrl.or g.thumbnailUrl
    mimeType := p.mimeType.or g.mimeType
    errorCode := p.errorCode.or g.errorCode
    errorMessage := p.errorMessage.or g.errorMessage }

/-- The `SET` clause of `reset_for_reprocessing`. -/
def applyReset (newRawPrompt : String) (g : MediaGeneration) : MediaGeneration :=
  { g with
    rawPrompt := newRawPrompt
    status := .queued
    interpretationPayload := none
    interpretationAuditPayload := none
    generationSpecPayload := none
    decisionPayload := none
    orchestrationAuditPayload := none
    deliveryPayload := none
    generatorServiceResponse := none
    resolvedOutputType := none
    llmProvider := none
    llmModel := none
    generatorProvider := none
    generatorModel := none
    errorCode := none
    errorMessage := none
    generationStatus := none
    generationErrorCode := none
    generationErrorMessage := none }

/-- The `SET` clause of a statement, without `updated_at`. -/
def set : RowUpdate → MediaGeneration → MediaGeneration
  | payloads p, g => applyPayloads p g
  | generationJobStatus jobId status, g =>
    { g with generationJobId := jobId, generationStatus := some status }
  | s3Metadata objectKey presignedUrl expiresAt, g =>
    { g with
      s3ObjectKey := some objectKey
      presignedDownloadUrl := some presignedUrl
      presignedUrlExpiresAt := some expiresAt }
  | generationError code message, g =>
    { g with generationErrorCode := some code, generationErrorMessage := some message }
  | clarificationState state clarifiedAt skipped, g =>
    { g with
      clarificationState := state
      clarifiedAt := clarifiedAt
      clarificationSkipped := skipped }
  | resetForReprocessing prompt, g => applyReset prompt g
  | markProcessing, g => { g with generationStatus := some .processing }
  | interpretation payload llmProvider llmModel, g =>
    { g with
      interpretationPayload := some payload
      llmProvider := some llmProvider
      llmModel := some llmModel }
  | decision resolvedOutputType decisionPayload generationSpec, g =>
    { g with
      resolvedOutputType := some resolvedOutputType
      decisionPayload := some decisionPayload
      generationSpecPayload := some generationSpec
      errorCode := none
      errorMessage := none }
  | delivery payload, g => { g with deliveryPayload := some payload }

/-- One `UPDATE`, which also sets `updated_at = NOW()`. -/
def apply (u : RowUpdate) (now : DateTime) (g : MediaGeneration) : MediaGeneration :=
  { u.set g with updatedAt := now }

end RowUpdate

end KlassGateway.Db
