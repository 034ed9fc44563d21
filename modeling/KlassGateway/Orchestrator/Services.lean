import KlassGateway.Effects
import KlassGateway.Orchestrator.Decision
import KlassGateway.Orchestrator.GenerationSpec
/-!
# The audit trail and decision services

The methods of `AuditTrailService` and `DecisionService::resolve` as programs.
`Orchestrator.AuditTrail`, `Orchestrator.Decision` and
`Orchestrator.GenerationSpec` model what they compute.

A generation id arrives here as a UUID, so the parse errors of the text form
do not occur.
-/

namespace KlassGateway.Orchestrator

open Lib Db

/-! ## AuditTrailService -/

/-- The end of an audit transaction: a panic, or its result. -/
def settle : Option (Except AuditTrailError Unit) → GatewayResult AuditTrailError Unit
  | none => panicked
  | some (.ok ()) => pure ()
  | some (.error e) => throw e

/-- `AuditTrailService::initialize`. -/
def initializeAudit (generationId : Uuid) : GatewayResult AuditTrailError Unit := do
  settle (← mapErr .database (query (.onRow generationId .initializeAudit)))

/-- `AuditTrailService::transition`. -/
def transition (generationId : Uuid) (toStatus : MediaGenerationStatus) (context : Option Json)
    (attempt : Option Int) (jobContext : Option Json) : GatewayResult AuditTrailError Unit := do
  settle (← mapErr .database
    (query (.onRow generationId (.transition toStatus context attempt jobContext))))

/-- `AuditTrailService::mark_failed`. -/
def markFailed (generationId : Uuid) (errorCode errorMessage : String) (retryable : Bool)
    (context : Option Json) (attempt : Option Int) (jobContext : Option Json) :
    GatewayResult AuditTrailError Unit := do
  settle (← mapErr .database (query
    (.onRow generationId
      (.markFailed errorCode errorMessage retryable context attempt jobContext))))

/-! ## DecisionService -/

/-- `DecisionError`. -/
inductive DecisionError where
  | missingInterpretation (message : String)
  | database (e : SqlxError)

namespace DecisionError

/-- `Display` of `DecisionError`. -/
def toText : DecisionError → String
  | missingInterpretation m => "interpretation payload is required: " ++ m
  | database e => "database error: " ++ e.toText

end DecisionError

/-- The `content_draft` entry of the decision payload. -/
def contentDraftMeta : Option Json → Json
  | some draft =>
    .obj [
      ("source", (draft.get "source").getD "interpretation_only"),
      ("schema_version", (draft.pointer ["payload", "schema_version"]).getD .null),
      ("adapter_provider", (draft.pointer ["adapter_metadata", "provider"]).getD .null),
      ("adapter_model", (draft.pointer ["adapter_metadata", "model"]).getD .null),
      ("adapter_primary_provider",
        (draft.pointer ["adapter_metadata", "primary_provider"]).getD .null),
      ("adapter_fallback_used",
        (draft.pointer ["adapter_metadata", "fallback_used"]).getD false),
      ("adapter_fallback_reason",
        (draft.pointer ["adapter_metadata", "fallback_reason"]).getD .null),
      ("draft_fallback_triggered",
        (draft.pointer ["payload", "fallback", "triggered"]).getD false),
      ("draft_fallback_reason_code",
        (draft.pointer ["payload", "fallback", "reason_code"]).getD .null)]
  | none =>
    .obj [
      ("source", "interpretation_only"), ("schema_version", .null), ("adapter_provider", .null),
      ("adapter_model", .null), ("adapter_primary_provider", .null),
      ("adapter_fallback_used", false), ("adapter_fallback_reason", .null),
      ("draft_fallback_triggered", false), ("draft_fallback_reason_code", .null)]

variable (P : Platform)

/-- The decision payload of `resolve`. -/
def decisionPayload (decision : DecisionOutput) (draftPayload : Option Json) : Json :=
  decision.toJson.insert "content_draft" (contentDraftMeta draftPayload)

/-- `DecisionService::resolve`. -/
def resolve (generationId : Uuid) (interpretation : Json) (preferredOutputType : Option String)
    (draftPayload : Option Json) : GatewayResult DecisionError Json := do
  if interpretation.isNull || !interpretation.isObject then
    throw (.missingInterpretation
      "Interpretation payload must exist before resolving the output type.")
  else
    let now ← utcNow
    let decision := decideOutput P interpretation preferredOutputType now
    let generationSpec :=
      buildGenerationSpec P interpretation decision.resolvedOutputType draftPayload
    let _ ← mapErr .database (query (.onRow generationId
      (.update (.decision decision.resolvedOutputType (decisionPayload decision draftPayload)
        generationSpec))))
    return decisionPayload decision draftPayload

end KlassGateway.Orchestrator
