import KlassGateway.Db.MediaGenerations
import KlassGateway.Lib.Results
import KlassGateway.Storage.R2
/-!
# Publication

Model of `publish_inner` in `media_gen/publication.rs`.  The whole function
runs in one transaction that holds the lock of the generation row, so it is a
function of that row.  The answers of the object store and of the artifact
host are collected in `PublicationReplies`.

The compensating deletes touch the object store only and are left out.
-/

namespace KlassGateway.MediaGen

open Lib Db Storage

/-- `PublicationError`. -/
inductive PublicationError where
  | notFound (generationId : Uuid)
  | missingArtifact
  | integrity (message : String)
  | download (message : String)
  | upload (message : String)
  | database (e : SqlxError)

namespace PublicationError

/-- `Display` of `PublicationError`. -/
def toText : PublicationError → String
  | notFound g => "generation not found: " ++ g.toText
  | missingArtifact => "artifact not found in generator response"
  | integrity m => "integrity check failed: " ++ m
  | download m => "failed to download artifact: " ++ m
  | upload m => "R2 upload failed: " ++ m
  | database e => "database error: " ++ e.toText

end PublicationError

/-- A row of `topics`, as `publish_inner` inserts it. -/
structure Topic where
  id : Uuid
  title : String
  ownerUserId : Int
  isPublished : Bool := true

/-- A row of `contents`, as `publish_inner` inserts it. -/
structure Content where
  id : Uuid
  topicId : Uuid
  contentType : String
  title : String
  mediaUrl : String
  isPublished : Bool := true

/-- A row of `recommended_projects`, as `publish_inner` inserts it. -/
structure RecommendedProject where
  id : Int
  title : String
  projectFileUrl : String
  thumbnailUrl : Option String
  sourceType : String := "ai_generated"
  sourceReference : String
  isActive : Bool := true

/-- An HTTP answer: the status and the body, or a transport error. -/
abbrev HttpReply := Except String (Nat × List UInt8)

/-- What the other services answer during one publication. -/
structure PublicationReplies where
  r2PublicUrl : String := ""
  presign : Except String String := .ok ""
  artifact : HttpReply := .ok (200, [])
  thumbnail : HttpReply := .ok (404, [])
  putThumbnail : PutReply := {}
  putArtifact : PutReply := {}

namespace PublicationReplies

/-- Every service answers, the artifact is there, and the uploads are stored.
A thumbnail may be missing. -/
def succeed (r : PublicationReplies) : Bool :=
  r.presign.isOk && (match r.artifact with
    | .ok (status, _) => 200 ≤ status && status < 300
    | .error _ => false) &&
    r.thumbnail.isOk && r.putThumbnail.result.isOk && r.putArtifact.result.isOk

end PublicationReplies

/-! ## Pure helpers -/

/-- `thumbnail_accent` and `mime_label` colour the fallback picture, whose
bytes nothing reads back; only its media type matters here. -/
def svgMime : String := "image/svg+xml"

/-- `default_mime_for`. -/
def defaultMimeFor (outputType : String) : String :=
  if outputType = "pdf" then "application/pdf"
  else if outputType = "pptx" then
    "application/vnd.openxmlformats-officedocument.presentationml.presentation"
  else if outputType = "docx" then
    "application/vnd.openxmlformats-officedocument.wordprocessingml.document"
  else "application/octet-stream"

/-- `content_type_from_output`. -/
def contentTypeFromOutput (_outputType : String) : String := "module"

/-- The bytes of an ASCII text. -/
def asciiBytes (s : String) : List UInt8 := s.toList.map fun c => UInt8.ofNat c.toNat

/-- Whether a list of bytes occurs in another. -/
def containsBytes (pat : List UInt8) : List UInt8 → Bool
  | [] => pat.isEmpty
  | b :: bs => pat.isPrefixOf (b :: bs) || containsBytes pat bs

/-- `has_pdf_eof_marker`: `%%EOF` in the last 1024 bytes. -/
def hasPdfEofMarker (bytes : List UInt8) : Bool :=
  containsBytes (asciiBytes "%%EOF") (bytes.drop (bytes.length - 1024))

/-- `validate_integrity`. -/
def validateIntegrity (bytes : List UInt8) (mimeType : String) : Except PublicationError Unit :=
  if bytes.isEmpty then .error (.integrity "artifact is empty")
  else if Text.contains mimeType "pdf" then
    if !(asciiBytes "%PDF").isPrefixOf bytes then
      .error (.integrity "PDF file missing %PDF header magic bytes")
    else if !hasPdfEofMarker bytes then .error (.integrity "PDF file missing %%EOF trailer")
    else .ok ()
  else if Text.contains mimeType "officedocument" || Text.contains mimeType "presentation" ||
      Text.contains mimeType "word" then
    if !([0x50, 0x4B, 0x03, 0x04] : List UInt8).isPrefixOf bytes then
      .error (.integrity "OOXML file missing PK\\x03\\x04 (ZIP) magic bytes")
    else .ok ()
  else .ok ()

/-- `build_delivery_payload`. -/
def buildDeliveryPayload (fileUrl : String) (thumbnailUrl : Option String)
    (outputType mimeType : String) (previewUrl : Option String) : Json :=
  .obj [
    ("schema_version", "media_delivery_response.v1"),
    ("response_meta", .obj [("provider", "python-renderer"), ("model", "hf-space-v3"),
      ("llm_used", false)]),
    ("fallback", .obj [("triggered", false), ("reason_code", .null), ("action", .null)]),
    ("artifact", .obj [("file_url", fileUrl), ("thumbnail_url", Json.ofOption .str thumbnailUrl),
      ("output_type", outputType), ("mime_type", mimeType),
      ("preview_url", Json.ofOption .str previewUrl)])]

/-! ## The publication -/

/-- Where the artifact is: a presigned URL of the stored object, or the first
URL entry of the response, which then has to be a text. -/
def artifactUrl (response : Json) (replies : PublicationReplies) :
    Except PublicationError String :=
  match (response.get "s3_object_key").bind Json.asStr with
  | some _ =>
    replies.presign.mapError fun e => .upload ("failed to generate presigned URL: " ++ e)
  | none =>
    match (((response.get "presigned_url").or (response.get "file_url")).or
        (response.pointer ["response", "file_url"])).bind Json.asStr with
    | some url => .ok url
    | none => .error .missingArtifact

/-- `download_artifact`. -/
def downloadArtifact (reply : HttpReply) : Except PublicationError (List UInt8) :=
  match reply with
  | .error e => .error (.download e)
  | .ok (status, bytes) =>
    if 200 ≤ status ∧ status < 300 then .ok bytes
    else .error (.integrity ("artifact download failed: HTTP status " ++ toString status))

/-- `resolve_thumbnail`: the renderer's picture goes to `materials`, the
fallback picture to `gallery`. -/
def resolveThumbnail (response : Json) (replies : PublicationReplies) :
    Except PublicationError (Option String) :=
  let put (category : String) (bytes : List UInt8) : Except PublicationError (Option String) :=
    match upload replies.r2PublicUrl category bytes svgMime replies.putThumbnail with
    | .ok r => .ok (some r.publicUrl)
    | .error e => .error (.upload e)
  let rendererUrl := (((response.get "thumbnail_url").or
    (response.pointer ["response", "thumbnail_url"])).bind Json.asStr).filter (· ≠ "")
  match rendererUrl, replies.thumbnail with
  | some _, .ok (status, b :: bs) =>
    if 200 ≤ status ∧ status < 300 then put "materials" (b :: bs) else put "gallery" [0]
  | _, _ => put "gallery" [0]

/-- `PublishResult`. -/
structure PublishResult where
  topicId : Option Uuid := none
  contentId : Option Uuid := none
  recommendedProjectId : Option Int := none

/-- What a publication commits. -/
structure Publication where
  topic : Topic
  content : Content
  project : RecommendedProject
  row : MediaGeneration

/-- `publish_inner` on the locked row.  `none` is the early return for a row
that is completed or cancelled. -/
def publishRow (replies : PublicationReplies) (topicId contentId : Uuid) (projectId : Int)
    (now : DateTime) (g : MediaGeneration) : Except PublicationError (Option Publication) :=
  if g.status = .completed ∨ g.status = .cancelled then .ok none
  else do
    let outputType := g.resolvedOutputType.getD "pdf"
    let mimeType := g.mimeType.getD (defaultMimeFor outputType)
    let response ← okOr .missingArtifact g.generatorServiceResponse
    let _ ← artifactUrl response replies
    let bytes ← downloadArtifact replies.artifact
    validateIntegrity bytes mimeType
    let thumbnailUrl ← resolveThumbnail response replies
    let stored ← (upload replies.r2PublicUrl "materials" bytes mimeType
      replies.putArtifact).mapError PublicationError.upload
    let title := ((g.interpretationPayload.bind (Json.pointer ["document_blueprint", "title"])).bind
      Json.asStr).getD "Generated Topic"
    let previewUrl := (response.pointer ["artifact_metadata", "preview_url"]).bind Json.asStr
    return some
      { topic := { id := topicId, title, ownerUserId := g.teacherId }
        content :=
          { id := contentId
            topicId
            contentType := contentTypeFromOutput outputType
            title
            mediaUrl := stored.publicUrl }
        project :=
          { id := projectId
            title
            projectFileUrl := stored.publicUrl
            thumbnailUrl
            sourceReference := g.id.toText }
        row := { g with
          topicId := some topicId
          contentId := some contentId
          recommendedProjectId := some projectId
          storagePath := some stored.path
          fileUrl := some stored.publicUrl
          thumbnailUrl := thumbnailUrl
          deliveryPayload := some
            (buildDeliveryPayload stored.publicUrl thumbnailUrl outputType mimeType previewUrl)
          resolvedOutputType := some outputType
          updatedAt := now } }

/-- A publication changes the entities, the artifact columns and the delivery
payload of its row. -/
theorem publishRow_row {replies : PublicationReplies} {t c : Uuid} {p : Int} {now : DateTime}
    {g : MediaGeneration} {pub : Publication}
    (h : publishRow replies t c p now g = .ok (some pub)) :
    ∃ path url thumb delivery type, pub.row = { g with
      topicId := some t
      contentId := some c
      recommendedProjectId := some p
      storagePath := path
      fileUrl := url
      thumbnailUrl := thumb
      deliveryPayload := delivery
      resolvedOutputType := some type
      updatedAt := now } := by
  rw [publishRow] at h
  split at h
  · cases h
  · obtain ⟨response, _, h⟩ := ok_of_bind h
    obtain ⟨url, _, h⟩ := ok_of_bind h
    obtain ⟨bytes, _, h⟩ := ok_of_bind h
    obtain ⟨_, _, h⟩ := ok_of_bind h
    obtain ⟨thumbnailUrl, _, h⟩ := ok_of_bind h
    obtain ⟨stored, _, h⟩ := ok_of_bind h
    cases h
    exact ⟨_, _, _, _, _, rfl⟩

/-- The row that a publication commits points at its entities. -/
def PointsAt (g : MediaGeneration) (pub : Publication) : Prop :=
  g.topicId = some pub.topic.id ∧ g.contentId = some pub.content.id ∧
    g.recommendedProjectId = some pub.project.id

/-- What is published is the row of an open generation, which then points at the
entities. -/
theorem publishRow_pointsAt {replies : PublicationReplies} {t c : Uuid} {p : Int} {now : DateTime}
    {g : MediaGeneration} {pub : Publication}
    (h : publishRow replies t c p now g = .ok (some pub)) :
    PointsAt pub.row pub ∧ ¬ (g.status = .completed ∨ g.status = .cancelled) := by
  rw [publishRow] at h
  split at h
  · cases h
  · next hopen =>
    obtain ⟨response, _, h⟩ := ok_of_bind h
    obtain ⟨url, _, h⟩ := ok_of_bind h
    obtain ⟨bytes, _, h⟩ := ok_of_bind h
    obtain ⟨_, _, h⟩ := ok_of_bind h
    obtain ⟨thumbnailUrl, _, h⟩ := ok_of_bind h
    obtain ⟨stored, _, h⟩ := ok_of_bind h
    cases h
    exact ⟨⟨rfl, rfl, rfl⟩, hopen⟩

/-- The row that a publication commits carries the payload of
`build_delivery_payload`. -/
theorem publishRow_delivery {replies : PublicationReplies} {t c : Uuid} {p : Int} {now : DateTime}
    {g : MediaGeneration} {pub : Publication}
    (h : publishRow replies t c p now g = .ok (some pub)) :
    ∃ fileUrl thumbnailUrl outputType mimeType previewUrl, pub.row.deliveryPayload =
      some (buildDeliveryPayload fileUrl thumbnailUrl outputType mimeType previewUrl) := by
  rw [publishRow] at h
  split at h
  · cases h
  · obtain ⟨response, _, h⟩ := ok_of_bind h
    obtain ⟨url, _, h⟩ := ok_of_bind h
    obtain ⟨bytes, _, h⟩ := ok_of_bind h
    obtain ⟨_, _, h⟩ := ok_of_bind h
    obtain ⟨thumbnailUrl, _, h⟩ := ok_of_bind h
    obtain ⟨stored, _, h⟩ := ok_of_bind h
    cases h
    exact ⟨_, _, _, _, _, rfl⟩

end KlassGateway.MediaGen
