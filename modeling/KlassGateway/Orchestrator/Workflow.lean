import KlassGateway.Orchestrator.Services
/-!
# The workflow

Model of `orchestrator/workflow.rs`.  `process` runs the four phases, each
behind its checkpoint, with the step callbacks as a parameter.

The checkpoint queries read one row each.  Their `WHERE` clauses are the
predicates on the row below.
-/

namespace KlassGateway.Orchestrator

open Lib Db

/-- `WorkflowError`. -/
inductive WorkflowError where
  | notFound (generationId : Uuid)
  | stepFailed (step message : String)
  | auditTrail (e : AuditTrailError)
  | decision (e : DecisionError)
  | stepProvider (message : String)
  | database (e : SqlxError)

namespace WorkflowError

/-- `Display` of `WorkflowError`. -/
def toText : WorkflowError → String
  | notFound g => "generation not found: " ++ g.toText
  | stepFailed step message => "workflow step failed: " ++ step ++ " — " ++ message
  | auditTrail e => "audit trail error: " ++ e.toText
  | decision e => "decision error: " ++ e.toText
  | stepProvider m => "step provider error: " ++ m
  | database e => "database error: " ++ e.toText

end WorkflowError

/-- The step traits: `InterpretStep`, `DraftStep`, `GenerateStep`,
`PublishStep` and `ComposeStep`. -/
structure Steps where
  interpret : Uuid → GatewayResult WorkflowError Json
  draft : Uuid → GatewayResult WorkflowError Json
  submitJob : Uuid → Uuid → GatewayResult WorkflowError Unit
  publish : Uuid → GatewayResult WorkflowError Json
  compose : Uuid → GatewayResult WorkflowError Json

/-! ## Checkpoints -/

/-- The text under `schema_version` is neither `NULL` nor empty. -/
def hasSchemaVersion (payload : Option Json) : Bool :=
  Json.nonEmptyText (payload.bind (Json.get "schema_version"))

/-- `decision_payload->'content_draft'->>'source'`, if it is a text. -/
def draftSource (g : MediaGeneration) : Option String :=
  (g.decisionPayload.bind (Json.pointer ["content_draft", "source"])).bind Json.asStr

/-- `has_classification`. -/
def hasClassification (g : MediaGeneration) : Bool :=
  hasSchemaVersion g.interpretationPayload && hasSchemaVersion g.generationSpecPayload &&
    g.resolvedOutputType.any (· != "") && draftSource g != some "interpretation_only"

/-- `has_publication_entities`. -/
def hasPublicationEntities (g : MediaGeneration) : Bool :=
  g.topicId.isSome && g.contentId.isSome && g.recommendedProjectId.isSome

/-- `has_final_delivery_payload`. -/
def hasFinalDeliveryPayload (g : MediaGeneration) : Bool := hasSchemaVersion g.deliveryPayload

/-! ## Reads -/

/-- A `SELECT` on the row of a generation. -/
def selectRow (generationId : Uuid) : GatewayResult WorkflowError (Option MediaGeneration) :=
  mapErr .database (query (.findById generationId))

/-- `get_status`. -/
def getStatus (generationId : Uuid) : GatewayResult WorkflowError MediaGenerationStatus := do
  match ← selectRow generationId with
  | some g => return g.status
  | none => throw (.notFound generationId)

/-- `status_before`. -/
def statusBefore (generationId : Uuid) (checkpoint : MediaGenerationStatus) :
    GatewayResult WorkflowError Bool := do
  return (← getStatus generationId).statusBefore checkpoint

/-- A checkpoint on the row; a row that is not there has not passed it. -/
def checkpoint (generationId : Uuid) (p : MediaGeneration → Bool) :
    GatewayResult WorkflowError Bool := do
  return (← selectRow generationId).any p

/-- `get_decision_context`. -/
def getDecisionContext (generationId : Uuid) : GatewayResult WorkflowError Json := do
  return ((← selectRow generationId).bind MediaGeneration.decisionPayload).getD .null

/-- `generation_status = 'processing'`, read into a non-nullable value: a row
without a generation status is a decoding error. -/
def isProcessing (generationId : Uuid) : GatewayResult WorkflowError Bool := do
  match ← selectRow generationId with
  | none => return false
  | some g =>
    match g.generationStatus with
    | some s => return s == .processing
    | none => throw (.database (.other
        "error occurred while decoding column 0: unexpected null; try decoding as an `Option`"))

/-! ## The phases -/

variable (P : Platform) (steps : Steps)

/-- A transition that a phase requests. -/
def requestTransition (generationId : Uuid) (toStatus : MediaGenerationStatus) (context : Json)
    (attempt : Int) (jobContext : Option Json) : GatewayResult WorkflowError Unit :=
  mapErr .auditTrail (transition generationId toStatus (some context) (some attempt) jobContext)

/-- Phase B of `ensure_classified`: interpret, decide, draft, decide again. -/
def classify (generationId : Uuid) : GatewayResult WorkflowError Unit := do
  let interpretation ← steps.interpret generationId
  let preferred := (← selectRow generationId).map MediaGeneration.preferredOutputType
  let _ ← mapErr .decision (resolve P generationId interpretation preferred none)
  let draftPayload ← steps.draft generationId
  let _ ← mapErr .decision (resolve P generationId interpretation preferred (some draftPayload))

/-- Phase A of `ensure_classified`. -/
def beginInterpreting (generationId : Uuid) (attempt : Int) (jobContext : Option Json) :
    GatewayResult WorkflowError Unit := do
  if ← statusBefore generationId .interpreting then
    requestTransition generationId .interpreting (.obj [("step", "interpretation")]) attempt
      jobContext

/-- Phase B of `ensure_classified`, unless it was done before. -/
def classifyOnce (generationId : Uuid) : GatewayResult WorkflowError Unit := do
  if ← checkpoint generationId hasClassification then return
  else classify P steps generationId

/-- Phase C of `ensure_classified`. -/
def finishClassified (generationId : Uuid) (attempt : Int) (jobContext : Option Json) :
    GatewayResult WorkflowError Unit := do
  if ← statusBefore generationId .classified then
    let decision ← getDecisionContext generationId
    requestTransition generationId .classified
      (.obj [
        ("step", "classification"),
        ("decision_source", (decision.get "decision_source").getD .null),
        ("reason_code", (decision.get "reason_code").getD .null),
        ("content_draft_source", (decision.pointer ["content_draft", "source"]).getD .null),
        ("resolved_output_type", (decision.get "resolved_output_type").getD .null)])
      attempt jobContext

/-- `ensure_classified`. -/
def ensureClassified (generationId : Uuid) (attempt : Int) (jobContext : Option Json) :
    GatewayResult WorkflowError Unit := do
  beginInterpreting generationId attempt jobContext
  classifyOnce P steps generationId
  finishClassified generationId attempt jobContext

/-- Phase A of `ensure_generated`. -/
def beginGenerating (generationId : Uuid) (jobId : Option Uuid) (attempt : Int)
    (jobContext : Option Json) : GatewayResult WorkflowError Unit := do
  if ← statusBefore generationId .generating then
    let resolvedType := (← selectRow generationId).bind MediaGeneration.resolvedOutputType
    requestTransition generationId .generating
      (.obj [
        ("step", "generation"),
        ("job_id", Json.ofOption (fun j : Uuid => .str j.toText) jobId),
        ("resolved_output_type", Json.ofOption .str resolvedType)])
      attempt jobContext

/-- Phase B of `ensure_generated`: submit, then mark the row. -/
def submitGeneration (generationId : Uuid) : Option Uuid → GatewayResult WorkflowError Unit
  | some jobId => do
    steps.submitJob generationId jobId
    let _ ← mapErr .database (query (.onRow generationId (.update .markProcessing)))
  | none => pure ()

/-- `ensure_generated`. -/
def ensureGenerated (generationId : Uuid) (jobId : Option Uuid) (attempt : Int)
    (jobContext : Option Json) : GatewayResult WorkflowError Unit := do
  beginGenerating generationId jobId attempt jobContext
  submitGeneration steps generationId jobId

/-- `ensure_published`. -/
def ensurePublished (generationId : Uuid) (attempt : Int) (jobContext : Option Json) :
    GatewayResult WorkflowError Unit := do
  if ← checkpoint generationId hasPublicationEntities then
    if ← statusBefore generationId .publishing then
      requestTransition generationId .publishing
        (.obj [("step", "publication"), ("reused_publication_entities", true)]) attempt jobContext
  else
    let _ ← steps.publish generationId

/-- The audit context of the completion. -/
def deliveryContext (g : Option MediaGeneration) : Json :=
  let payload := g.bind MediaGeneration.deliveryPayload
  let text (path : List String) : Option String :=
    (payload.bind (Json.pointer path)).bind Json.asStr
  let triggered : Bool :=
    match payload.bind (Json.pointer ["fallback", "triggered"]) with
    | some (.bool b) => b
    | some (.str s) => s == "true"
    | _ => false
  .obj [
    ("step", "delivery"),
    ("delivery_fallback", triggered),
    ("delivery_provider", Json.ofOption .str (text ["response_meta", "provider"])),
    ("delivery_model", Json.ofOption .str (text ["response_meta", "model"]))]

/-- The composition, unless a delivery payload is there. -/
def composeOnce (generationId : Uuid) : GatewayResult WorkflowError Unit := do
  if ← checkpoint generationId hasFinalDeliveryPayload then return
  else
    let _ ← steps.compose generationId

/-- The last transition. -/
def finishCompleted (generationId : Uuid) (attempt : Int) (jobContext : Option Json) :
    GatewayResult WorkflowError Unit := do
  if ← statusBefore generationId .completed then
    let context := deliveryContext (← selectRow generationId)
    requestTransition generationId .completed context attempt jobContext

/-- `ensure_completed`. -/
def ensureCompleted (generationId : Uuid) (attempt : Int) (jobContext : Option Json) :
    GatewayResult WorkflowError Unit := do
  composeOnce steps generationId
  finishCompleted generationId attempt jobContext

/-- `timed_step`: the phase runs inside its span. -/
def timedStep (step : StepName) (body : GatewayResult WorkflowError Unit) :
    GatewayResult WorkflowError Unit :=
  ExceptT.mk do
    span (some step)
    let result ← attempt body
    span none
    return result

/-- The phases after the render job: they run unless the worker halts for the
renderer. -/
def deliver (generationId : Uuid) (attempt : Int) (jobContext : Option Json) :
    GatewayResult WorkflowError Unit := do
  if ← isProcessing generationId then return
  else
    timedStep .ensurePublished (ensurePublished steps generationId attempt jobContext)
    timedStep .ensureCompleted (ensureCompleted steps generationId attempt jobContext)

/-- The phases of a generation that is not terminal. -/
def runPhases (generationId : Uuid) (jobId : Option Uuid) (attempt : Int)
    (jobContext : Option Json) : GatewayResult WorkflowError Unit := do
  timedStep .ensureClassified (ensureClassified P steps generationId attempt jobContext)
  timedStep .ensureGenerated (ensureGenerated steps generationId jobId attempt jobContext)
  deliver steps generationId attempt jobContext

/-- `WorkflowService::process`. -/
def process (generationId : Uuid) (jobId : Option Uuid) (attempt : Option Int)
    (jobContext : Option Json) : GatewayResult WorkflowError Unit := do
  mapErr .auditTrail (initializeAudit generationId)
  if (← getStatus generationId).isTerminal then return
  else runPhases P steps generationId jobId (attempt.getD 1) jobContext

end KlassGateway.Orchestrator
