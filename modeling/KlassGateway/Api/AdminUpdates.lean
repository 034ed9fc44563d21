import KlassGateway.Api.Handlers
import KlassGateway.Db.PartialUpdates
import KlassGateway.Lib.Serde
import KlassGateway.Lib.Text
/-!
# The PATCH handlers of the admin API

Model of `update` in `api/rest/admin/topics.rs`, `contents.rs`,
`marketplace_tasks.rs` and `student_progress.rs`: the body is decoded, the
caller and the fields are checked, and the repository updates the row.

The response and the activity log are left out.
-/

namespace KlassGateway.Api.Admin

open Lib Lib.Json Db.Admin

/-- The text formats of other crates. -/
structure Parsers where
  /-- `Uuid::parse_str`. -/
  uuid : String → Option Uuid
  /-- `DateTime::parse_from_rfc3339`, as a time in UTC. -/
  rfc3339 : String → Option DateTime

/-- What a handler answers instead of a row: its body could not be decoded, or
an `AppError`. -/
inductive PatchError where
  | body
  | app (e : AppError)
  deriving DecidableEq

/-- `require_admin`. -/
def requireAdmin (principal : Principal) : Except PatchError Unit :=
  if principal.role ≠ "admin" then
    throw (.app (.forbidden ("requires role 'admin', user has '" ++ principal.role ++ "'")))
  else pure ()

/-! ## Bodies -/

/-- `Option<T>`, for `T` as `d` reads it. -/
def optional {α : Type} (name : String) (d : Decoder α) : Decoder (Option α) :=
  fieldOr name none (nullable d)

/-- `Uuid`. -/
def asUuid (P : Parsers) : Decoder Uuid := fun v => (asStr v).bind P.uuid

/-- `serde_json::Value`. -/
def asValue : Decoder Json := some

/-- A body as a request.  No field of a request has a default, so an array has one element for
each of them. -/
def readBody {α : Type} (names : List String) (d : Decoder α) (body : Json) :
    Except PatchError α :=
  okOr .body (textRecord names names.length d body)

/-- `UpdateTopicRequest`. -/
structure UpdateTopicRequest where
  title : Option String
  subSubjectId : Option (Option Int)
  thumbnailUrl : Option (Option String)

/-- The fields of `UpdateTopicRequest`. -/
def UpdateTopicRequest.names : List String := ["title", "sub_subject_id", "thumbnail_url"]

/-- `UpdateTopicRequest::deserialize`. -/
def UpdateTopicRequest.decode : Decoder UpdateTopicRequest := fun v => do
  let title ← optional "title" asStr v
  let subSubjectId ← optional "sub_subject_id" (nullable i64) v
  let thumbnailUrl ← optional "thumbnail_url" (nullable asStr) v
  return { title, subSubjectId, thumbnailUrl }

/-- `UpdateContentRequest`. -/
structure UpdateContentRequest where
  topicId : Option Uuid
  contentType : Option String
  title : Option (Option String)
  data : Option (Option Json)
  mediaUrl : Option (Option String)

/-- The fields of `UpdateContentRequest`. -/
def UpdateContentRequest.names : List String :=
  ["topic_id", "type", "title", "data", "media_url"]

/-- `UpdateContentRequest::deserialize`. -/
def UpdateContentRequest.decode (P : Parsers) : Decoder UpdateContentRequest := fun v => do
  let topicId ← optional "topic_id" (asUuid P) v
  let contentType ← optional "type" asStr v
  let title ← optional "title" (nullable asStr) v
  let data ← optional "data" (nullable asValue) v
  let mediaUrl ← optional "media_url" (nullable asStr) v
  return { topicId, contentType, title, data, mediaUrl }

/-- `UpdateMarketplaceTaskRequest`. -/
structure UpdateMarketplaceTaskRequest where
  contentId : Option Uuid
  taskType : Option String
  description : Option (Option String)
  creatorId : Option (Option String)
  suggestedFreelancerId : Option (Option Int)
  attachmentUrl : Option (Option String)
  mediaGenerationId : Option (Option Uuid)

/-- The fields of `UpdateMarketplaceTaskRequest`. -/
def UpdateMarketplaceTaskRequest.names : List String :=
  ["content_id", "task_type", "description", "creator_id", "suggested_freelancer_id",
    "attachment_url", "media_generation_id"]

/-- `UpdateMarketplaceTaskRequest::deserialize`. -/
def UpdateMarketplaceTaskRequest.decode (P : Parsers) : Decoder UpdateMarketplaceTaskRequest :=
  fun v => do
    let contentId ← optional "content_id" (asUuid P) v
    let taskType ← optional "task_type" asStr v
    let description ← optional "description" (nullable asStr) v
    let creatorId ← optional "creator_id" (nullable asStr) v
    let suggestedFreelancerId ← optional "suggested_freelancer_id" (nullable i64) v
    let attachmentUrl ← optional "attachment_url" (nullable asStr) v
    let mediaGenerationId ← optional "media_generation_id" (nullable (asUuid P)) v
    return {
      contentId, taskType, description, creatorId, suggestedFreelancerId, attachmentUrl
      mediaGenerationId }

/-- `UpdateStudentProgressRequest`. -/
structure UpdateStudentProgressRequest where
  studentName : Option String
  score : Option Int
  completionDate : Option (Option String)

/-- The fields of `UpdateStudentProgressRequest`. -/
def UpdateStudentProgressRequest.names : List String :=
  ["student_name", "score", "completion_date"]

/-- `UpdateStudentProgressRequest::deserialize`. -/
def UpdateStudentProgressRequest.decode : Decoder UpdateStudentProgressRequest := fun v => do
  let studentName ← optional "student_name" asStr v
  let score ← optional "score" i32 v
  let completionDate ← optional "completion_date" (nullable asStr) v
  return { studentName, score, completionDate }

/-! ## Checks -/

/-- A check that fails with a validation message. -/
def validate (accepted : Bool) (message : String) : Except PatchError Unit :=
  if accepted then pure () else throw (.app (.validation message))

/-- A field that is one of some words, if it is given. -/
def oneOf (words : List String) (message : String → String) :
    Option String → Except PatchError Unit
  | some word => validate (words.contains word) (message word)
  | none => pure ()

/-- The check of `content_type`. -/
def checkContentType : Option String → Except PatchError Unit :=
  oneOf ["module", "quiz", "brief"] fun word =>
    "invalid type '" ++ word ++ "': must be one of module, quiz, brief"

/-- The check of `task_type`. -/
def checkTaskType : Option String → Except PatchError Unit :=
  oneOf ["bid", "suggestion"] fun word =>
    "invalid task_type '" ++ word ++ "': must be one of bid, suggestion"

/-- The check of `student_name`. -/
def checkStudentName : Option String → Except PatchError Unit
  | some name => do
    validate (!(Text.trim name).isEmpty) "Nama siswa tidak boleh kosong."
    validate ((Text.trim name).utf8ByteSize ≤ 255) "Nama siswa maksimal 255 karakter."
  | none => pure ()

/-- The check of `score`. -/
def checkScore : Option Int → Except PatchError Unit
  | some score => validate (0 ≤ score ∧ score ≤ 100) "Skor harus antara 0 dan 100."
  | none => pure ()

/-- The completion date of a request as a time. -/
def parseCompletionDate (P : Parsers) :
    Option (Option String) → Except PatchError (Option (Option DateTime))
  | some (some text) =>
    match P.rfc3339 text with
    | some t => pure (some (some t))
    | none =>
      throw (.app (.validation
        "Format tanggal selesai tidak valid. Gunakan format RFC 3339 (ISO 8601)."))
  | some none => pure (some none)
  | none => pure none

/-- An error of a repository as the client is told. -/
def repoError (missing failed text : String) : PatchError :=
  if Text.contains text "not found" then .app (.notFound missing)
  else .app (.internal (failed ++ text))

/-! ## Handlers -/

section

variable (P : Parsers) (principal : Principal) (id : Uuid) (body : Json) (now : DateTime)

/-- `update` of `topics.rs`. -/
def updateTopic (refuses : Topic → Option SqlxError) (rows : List Topic) :
    Except PatchError (Topic × List Topic) := do
  let payload ← readBody UpdateTopicRequest.names UpdateTopicRequest.decode body
  requireAdmin principal
  (Db.Admin.updateTopic refuses id
    { title := payload.title
      subSubjectId := payload.subSubjectId
      thumbnailUrl := payload.thumbnailUrl } now rows).mapError
    (repoError "topic not found" "failed to update topic: ")

/-- `update` of `contents.rs`. -/
def updateContent (refuses : Content → Option SqlxError) (rows : List Content) :
    Except PatchError (Content × List Content) := do
  let payload ← readBody UpdateContentRequest.names (UpdateContentRequest.decode P) body
  requireAdmin principal
  checkContentType payload.contentType
  (Db.Admin.updateContent refuses id
    { topicId := payload.topicId
      contentType := payload.contentType
      title := payload.title
      data := payload.data
      mediaUrl := payload.mediaUrl } now rows).mapError
    (repoError "content not found" "failed to update content: ")

/-- `update` of `marketplace_tasks.rs`. -/
def updateMarketplaceTask (refuses : MarketplaceTask → Option SqlxError)
    (rows : List MarketplaceTask) : Except PatchError (MarketplaceTask × List MarketplaceTask) := do
  let payload ←
    readBody UpdateMarketplaceTaskRequest.names (UpdateMarketplaceTaskRequest.decode P) body
  requireAdmin principal
  checkTaskType payload.taskType
  (Db.Admin.updateTask refuses id
    { contentId := payload.contentId
      taskType := payload.taskType
      description := payload.description
      creatorId := payload.creatorId
      suggestedFreelancerId := payload.suggestedFreelancerId
      attachmentUrl := payload.attachmentUrl
      mediaGenerationId := payload.mediaGenerationId } now rows).mapError
    (repoError "marketplace task not found" "failed to update marketplace task: ")

/-- `update` of `student_progress.rs`. -/
def updateStudentProgress (refuses : StudentProgress → Option SqlxError)
    (rows : List StudentProgress) : Except PatchError (StudentProgress × List StudentProgress) := do
  let payload ← readBody UpdateStudentProgressRequest.names UpdateStudentProgressRequest.decode body
  requireAdmin principal
  checkStudentName payload.studentName
  checkScore payload.score
  let completionDate ← parseCompletionDate P payload.completionDate
  (Db.Admin.updateProgress refuses id
    { studentName := payload.studentName.map Text.trim
      score := payload.score
      completionDate := completionDate } now rows).mapError
    (repoError "Progress siswa tidak ditemukan." "gagal memperbarui progress siswa: ")

end

end KlassGateway.Api.Admin
