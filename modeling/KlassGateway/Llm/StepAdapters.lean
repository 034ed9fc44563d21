import KlassGateway.Orchestrator.Workflow
/-!
# The step adapters of the language models

Model of `llm/step_adapters.rs`: the interpret, draft and compose steps, each
reading the row, calling its service and storing the result.
-/

namespace KlassGateway.Llm

open Lib Db Orchestrator

/-- `fetch_one` on the row of a generation. -/
def fetchRow (generationId : Uuid) : GatewayResult WorkflowError MediaGeneration := do
  match ← selectRow generationId with
  | some g => return g
  | none => throw (.database (.other
      "no rows returned by a query that expected to return at least one row"))

/-- The named context behind an optional id. -/
def namedContext (lookup : (id : Int) → GatewayResult SqlxError (Option NamedRow)) :
    Option Int → GatewayResult WorkflowError (Option NamedContext)
  | some id => do
    let row ← mapErr .database (lookup id)
    return row.map fun r => { id, name := r.name, slug := r.slug }
  | none => pure none

/-- `InterpretStepAdapter::interpret`. -/
def interpretStep (generationId : Uuid) : GatewayResult WorkflowError Json := do
  let row ← fetchRow generationId
  let subjectContext ← namedContext (fun id => query (.findSubject id)) row.subjectId
  let subSubjectContext ← namedContext (fun id => query (.findSubSubject id)) row.subSubjectId
  let result ← mapErr (fun e : LlmError => WorkflowError.stepProvider (e.stepText "interpret"))
    (callInterpret
      { generationId
        teacherPrompt := row.rawPrompt
        preferredOutputType := row.preferredOutputType
        subjectContext
        subSubjectContext })
  let payload := result.interpretationPayload.toJson
  let _ ← mapErr .database (query (.onRow generationId
    (.update (.interpretation payload result.llmProvider result.llmModel))))
  return payload

/-- The envelope that the generation spec builder expects. -/
def draftEnvelope (result : DraftResult) : Json :=
  .obj [("payload", result.draftPayload.toJson), ("source", result.source),
    ("adapter_metadata", result.adapterMetadata)]

variable (P : Platform)

/-- The interpretation that `draft` reads back from its row. -/
def readInterpretation (row : MediaGeneration) : GatewayResult WorkflowError Json :=
  match row.interpretationPayload with
  | none => throw (.stepFailed "draft"
      "interpretation_payload is NULL — interpret step must run first")
  | some value =>
    match P.interpretationError value with
    | some e => throw (.stepFailed "draft"
        ("failed to deserialize interpretation_payload: " ++ e))
    | none => pure value

/-- `DraftStepAdapter::draft`. -/
def draftStep (generationId : Uuid) : GatewayResult WorkflowError Json := do
  let row ← fetchRow generationId
  let interpretation ← readInterpretation P row
  let resolvedOutputType := row.resolvedOutputType.getD "pdf"
  let result ← mapErr (fun e : LlmError => WorkflowError.stepProvider (e.stepText "draft"))
    (callDraft { generationId, interpretation, resolvedOutputType })
  let _ ← mapErr (fun e : DecisionError => WorkflowError.stepFailed "draft"
      ("failed to resolve decision with draft payload: " ++ e.toText))
    (resolve P generationId interpretation (some resolvedOutputType)
      (some (draftEnvelope result)))
  return result.draftPayload.toJson

/-- `ComposeStepAdapter::compose`. -/
def composeStep (generationId : Uuid) : GatewayResult WorkflowError Json := do
  let row ← mapErr .database (query (.composeRow generationId))
  let delivery ← mapErr (fun e : LlmError => WorkflowError.stepProvider (e.stepText "compose"))
    (callRespond
      { generationId
        title := row.title.getD "Untitled"
        previewSummary := row.previewSummary.getD ""
        outputType := row.resolvedOutputType.getD "pdf"
        fileUrl := row.fileUrl.getD ""
        mimeType := row.mimeType.getD ""
        thumbnailUrl := row.thumbnailUrl
        filename := row.filename })
  let _ ← mapErr .database (query (.onRow generationId (.update (.delivery delivery))))
  return delivery

end KlassGateway.Llm
