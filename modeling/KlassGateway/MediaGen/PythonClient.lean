import KlassGateway.Orchestrator.Workflow
/-!
# The client of the Python renderer

Model of `media_gen/python_client.rs`: loading the generation spec and
submitting a render job, and the publish step of `media_gen/publication.rs`.
-/

namespace KlassGateway.MediaGen

open Lib Db Orchestrator

/-- `PythonClientError`. -/
inductive PythonClientError where
  | notFound (generationId : Uuid)
  | missingSpec (generationId : Uuid)
  | http (message : String)
  | rendererError (code message : String) (status : Nat) (rawBody : Json)
  | database (e : SqlxError)

namespace PythonClientError

/-- `Display` of `PythonClientError`. -/
def toText : PythonClientError → String
  | notFound g => "generation not found: " ++ g.toText
  | missingSpec g => "generation spec payload missing for " ++ g.toText
  | http m => "HTTP request failed: " ++ m
  | rendererError code m _ _ => "Python renderer error (" ++ code ++ "): " ++ m
  | database e => "database error: " ++ e.toText

end PythonClientError

/-- A text that is not empty. -/
def nonEmptyStr (v : Option Json) : Option String := (v.bind Json.asStr).filter (· ≠ "")

/-- `map_error_code`. -/
def mapErrorCode (status : Nat) (body : Json) : String :=
  match nonEmptyStr (body.pointer ["error", "laravel_error_code_hint"]) with
  | some hint => hint
  | none =>
    match nonEmptyStr (body.get "error_code") with
    | some code => code
    | none =>
      if status = 429 ∨ (500 ≤ status ∧ status ≤ 599) then "PYTHON_SERVICE_UNAVAILABLE"
      else "ARTIFACT_INVALID"

/-- `extract_error_message`. -/
def extractErrorMessage (body : Json) : String :=
  ((((body.pointer ["error", "message"]).bind Json.asStr).or
    ((body.get "message").bind Json.asStr)).or
    ((body.get "error_message").bind Json.asStr)).getD "Unknown error from Python renderer"

/-- `load_spec`. -/
def loadSpec (generationId : Uuid) : GatewayResult PythonClientError Json := do
  match ← mapErr .database (query (.findById generationId)) with
  | none => throw (.notFound generationId)
  | some g =>
    match g.generationSpecPayload with
    | none => throw (.missingSpec generationId)
    | some spec => return spec

/-- `WEBHOOK_PATH`. -/
def webhookPath : String := "/internal/media-generations/webhook"

/-- What `submit_job` makes of the reply.  A body that is not JSON is an error
even when the renderer has accepted. -/
def readReply : RendererReply → Except PythonClientError Unit
  | .unreachable message _ => .error (.http message)
  | .replied _ (.error message) => .error (.http message)
  | .replied status (.ok body) =>
    if isSuccess status then .ok ()
    else .error (.rendererError (mapErrorCode status body) (extractErrorMessage body) status body)

/-- `submit_job`. -/
def submitJob (webhookBaseUrl : String) (generationId jobId : Uuid) :
    GatewayResult PythonClientError Unit := do
  let generationSpec ← loadSpec generationId
  let reply ← postJob
    { job := { generationId, jobId }
      generationSpec
      webhookUrl := webhookBaseUrl ++ webhookPath }
  match readReply reply with
  | .ok () => return
  | .error e => throw e

/-- `GenerateStep::submit_job`. -/
def generateStep (webhookBaseUrl : String) (generationId jobId : Uuid) :
    GatewayResult WorkflowError Unit :=
  mapErr (fun e => .stepProvider e.toText) (submitJob webhookBaseUrl generationId jobId)

/-! ## The publish step -/

/-- `MediaPublicationService::publish`. -/
def publish (generationId : Uuid) : GatewayResult PublicationError PublishResult := do
  let topicId ← newV4
  let contentId ← newV4
  match ← mapErr .database (query (.onRow generationId (.publish topicId contentId))) with
  | .ok result => return result
  | .error e => throw e

/-- `PublishStep::publish`. -/
def publishStep (generationId : Uuid) : GatewayResult WorkflowError Json := do
  let result ← mapErr (fun e : PublicationError =>
    WorkflowError.stepProvider ("publication error: " ++ e.toText)) (publish generationId)
  return .obj [
    ("topic_id", Json.ofOption (fun t : Uuid => .str t.toText) result.topicId),
    ("content_id", Json.ofOption (fun c : Uuid => .str c.toText) result.contentId),
    ("recommended_project_id", Json.ofOption (fun n : Int => n) result.recommendedProjectId)]

end KlassGateway.MediaGen
