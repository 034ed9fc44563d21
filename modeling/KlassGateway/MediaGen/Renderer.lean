import KlassGateway.Base
/-!
# The renderer as the gateway sees it

The Python renderer accepts render jobs at `POST /v1/jobs` and reports each of
them later to the webhook.  `Renderer` records what it has accepted, what it
still owes a callback for, and what it has reported.
-/

namespace KlassGateway.MediaGen

open Lib

/-- A render job is identified by its generation and its job id. -/
structure RenderJob where
  generationId : Uuid
  jobId : Uuid
  deriving DecidableEq

/-- The body of `POST /v1/jobs` (`build_job_request_body`). -/
structure RenderRequest where
  job : RenderJob
  generationSpec : Json
  webhookUrl : String

/-- What the submission sees: a status with a body that may not be JSON, or a
transport error after which the job may have arrived or not. -/
inductive RendererReply where
  | replied (status : Nat) (body : Except String Json)
  | unreachable (message : String) (arrived : Bool)

/-- `status == ACCEPTED || status.is_success()`. -/
def isSuccess (status : Nat) : Bool := 200 ≤ status && status < 300

namespace RendererReply

/-- Whether the renderer has taken the job. -/
def accepts : RendererReply → Bool
  | replied status _ => isSuccess status
  | unreachable _ arrived => arrived

/-- The job was taken and the answer can be read. -/
def succeeds : RendererReply → Bool
  | replied status body => isSuccess status && body.isOk
  | unreachable _ _ => false

end RendererReply

/-- `MediaWebhookPayload`. -/
structure MediaWebhookPayload where
  jobId : Uuid
  generationId : Uuid
  status : String
  s3ObjectKey : Option String := none
  presignedUrl : Option String := none
  fileUrl : Option String := none
  expiresAt : Option DateTime := none
  errorCode : Option String := none
  errorMessage : Option String := none
  artifactMetadata : Option Json := none

namespace MediaWebhookPayload

/-- `serde_json::to_value`. -/
def toJson (P : Platform) (p : MediaWebhookPayload) : Json :=
  .obj [("job_id", p.jobId.toText), ("generation_id", p.generationId.toText),
    ("status", p.status), ("s3_object_key", Json.ofOption .str p.s3ObjectKey),
    ("presigned_url", Json.ofOption .str p.presignedUrl),
    ("file_url", Json.ofOption .str p.fileUrl),
    ("expires_at", Json.ofOption (fun t => .str (P.rfc3339Millis t)) p.expiresAt),
    ("error_code", Json.ofOption .str p.errorCode),
    ("error_message", Json.ofOption .str p.errorMessage),
    ("artifact_metadata", p.artifactMetadata.getD .null)]

end MediaWebhookPayload

/-- The record of one renderer. -/
structure Renderer where
  accepted : List RenderJob := []
  owed : List RenderJob := []
  reported : List MediaWebhookPayload := []

namespace Renderer

/-- A submission that gets `reply`. -/
def submit (r : Renderer) (job : RenderJob) (reply : RendererReply) : Renderer :=
  if reply.accepts then { r with accepted := job :: r.accepted, owed := job :: r.owed } else r

/-- The renderer reports a job it owes a callback for. -/
def report (r : Renderer) (payload : MediaWebhookPayload) : Option Renderer :=
  let job : RenderJob := ⟨payload.generationId, payload.jobId⟩
  if job ∈ r.owed then
    some { r with owed := r.owed.erase job, reported := payload :: r.reported }
  else none

end Renderer

end KlassGateway.MediaGen
