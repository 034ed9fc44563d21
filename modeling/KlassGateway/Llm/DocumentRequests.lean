import KlassGateway.Cache.CacheKey
import KlassGateway.Contracts.PromptInterpretation
/-!
# Cache keys and requests of the document services

Model of the first step of `DraftService::draft` (`llm/draft.rs`) and of
`RespondService::respond` (`llm/respond.rs`), the cache key, and of the completion
request that their `execute_provider` builds.

The inputs have the fields that the two read.  The user message is the pretty text
of a JSON value; a request is kept with that value.
-/

namespace KlassGateway.Llm

open Lib Contracts Cache
open Lib.Json (textArray)

/-- The variable parts of `json_mode_request`. -/
structure CompletionRequest where
  model : String
  instruction : String
  userPayload : Json

/-- What the two services are configured with, and `DEFAULT_PPTX_DRAFT_INSTRUCTION`. -/
structure DocumentConfig where
  defaultModel : String
  defaultInstruction : String
  pptxInstruction : String

/-- The provider that both services name. -/
def provider : String := "openrouter"

/-! ## Content drafts -/

namespace Draft

/-- `DraftTaxonomyHint`. -/
structure TaxonomyHint where
  subjectName : Option String := none
  subSubjectName : Option String := none
  jenjang : Option String := none
  kelas : Option Int := none
  structureText : Option String := none
  matchedSignals : List String := []

/-- `DraftInput`. -/
structure Input where
  interpretation : PromptInterpretation.InterpretationPayload
  resolvedOutputType : String
  taxonomyHint : Option TaxonomyHint := none
  model : Option String := none
  instruction : Option String := none

/-- `DRAFT_REQUEST_TYPE`. -/
def requestType : String := "media_content_draft"

variable (P : Platform) (cfg : DocumentConfig) (input : Input)

/-- The model of the request. -/
def model : String := input.model.getD cfg.defaultModel

/-- The instruction: slides have their own. -/
def instruction : String :=
  match input.instruction with
  | some instruction => instruction
  | none => if input.resolvedOutputType = "pptx" then cfg.pptxInstruction else cfg.defaultInstruction

/-- `cache_input_payload` of `draft`. -/
def cacheInputPayload : Json :=
  let interpretation := input.interpretation
  .obj [("resolved_output_type", input.resolvedOutputType),
    ("interpretation_title", interpretation.documentBlueprint.title),
    ("interpretation_summary", interpretation.documentBlueprint.summary),
    ("teacher_prompt", interpretation.teacherPrompt),
    ("subject_context", Json.ofOption (fun c => .obj [("name", .str c.subjectName),
      ("slug", Json.ofOption .str c.subjectSlug)]) interpretation.subjectContext),
    ("sub_subject_context", Json.ofOption (fun c => .obj [("name", .str c.subSubjectName),
      ("slug", Json.ofOption .str c.subSubjectSlug)]) interpretation.subSubjectContext)]

/-- The cache key of `draft`. -/
def cacheKey : String :=
  buildCacheKey P .respond provider (model cfg input) requestType (instruction cfg input)
    (cacheInputPayload input)

/-- The JSON of a section of the blueprint. -/
def sectionPayload (s : PromptInterpretation.BlueprintSection) : Json :=
  .obj [("title", s.title), ("purpose", s.purpose), ("bullets", textArray s.bullets),
    ("estimated_length", s.estimatedLength)]

/-- The JSON of the taxonomy hint. -/
def hintPayload (h : TaxonomyHint) : Json :=
  .obj [("subject_name", Json.ofOption .str h.subjectName),
    ("sub_subject_name", Json.ofOption .str h.subSubjectName),
    ("jenjang", Json.ofOption .str h.jenjang),
    ("kelas", Json.ofOption (fun n => .num (.int n)) h.kelas),
    ("structure", Json.ofOption .str h.structureText),
    ("matched_signals", textArray h.matchedSignals)]

/-- `user_payload` of `execute_provider`. -/
def userPayload : Json :=
  let interpretation := input.interpretation
  .obj [("teacher_prompt", interpretation.teacherPrompt),
    ("output_type", input.resolvedOutputType),
    ("title", interpretation.documentBlueprint.title),
    ("summary", interpretation.documentBlueprint.summary),
    ("learning_objectives", textArray interpretation.learningObjectives),
    ("sections", .arr (interpretation.documentBlueprint.sections.map sectionPayload)),
    ("language", interpretation.language),
    ("teacher_intent_goal", interpretation.teacherIntent.goal),
    ("target_page_count", Json.ofOption .str
      (interpretation.interpretedFields.bind fun f => f.pageCount)),
    ("target_slide_count", Json.ofOption .str
      (interpretation.interpretedFields.bind fun f => f.slideCount)),
    ("constraints", .obj [
      ("preferred_output_type", interpretation.constraints.preferredOutputType),
      ("must_include", textArray interpretation.constraints.mustInclude),
      ("avoid", textArray interpretation.constraints.avoid),
      ("tone", Json.ofOption .str interpretation.constraints.tone)]),
    ("taxonomy_hint", Json.ofOption hintPayload input.taxonomyHint)]

/-- The request that `execute_provider` sends. -/
def completionRequest : CompletionRequest where
  model := model cfg input
  instruction := instruction cfg input
  userPayload := userPayload input

end Draft

/-! ## Delivery responses -/

namespace Respond

/-- `EntityNode`. -/
structure EntityNode where
  id : String
  title : String

/-- `RespondArtifact`. -/
structure Artifact where
  outputType : String
  fileUrl : String
  mimeType : String
  thumbnailUrl : Option String := none
  filename : Option String := none

/-- `RespondPublication`. -/
structure Publication where
  topic : Option EntityNode := none
  content : Option EntityNode := none
  recommendedProject : Option EntityNode := none

/-- `RespondInput`. -/
structure Input where
  title : String
  previewSummary : String
  artifact : Artifact
  publication : Publication := {}
  model : Option String := none
  instruction : Option String := none

/-- `RESPOND_REQUEST_TYPE`. -/
def requestType : String := "media_delivery_response"

variable (P : Platform) (cfg : DocumentConfig) (input : Input)

/-- The model of the request. -/
def model : String := input.model.getD cfg.defaultModel

/-- The instruction of the request. -/
def instruction : String := input.instruction.getD cfg.defaultInstruction

/-- The JSON of a publication entity. -/
def nodePayload (n : EntityNode) : Json := .obj [("id", n.id), ("title", n.title)]

/-- `cache_input_payload` of `respond`. -/
def cacheInputPayload : Json :=
  .obj [("title", input.title), ("preview_summary", input.previewSummary),
    ("artifact", .obj [("output_type", input.artifact.outputType),
      ("file_url", input.artifact.fileUrl), ("mime_type", input.artifact.mimeType)]),
    ("topic", Json.ofOption nodePayload input.publication.topic),
    ("content", Json.ofOption nodePayload input.publication.content)]

/-- The cache key of `respond`. -/
def cacheKey : String :=
  buildCacheKey P .respond provider (model cfg input) requestType (instruction cfg input)
    (cacheInputPayload input)

/-- `user_payload` of `execute_provider`. -/
def userPayload : Json :=
  .obj [("title", input.title), ("preview_summary", input.previewSummary),
    ("artifact", .obj [("output_type", input.artifact.outputType), ("title", input.title),
      ("file_url", input.artifact.fileUrl),
      ("thumbnail_url", Json.ofOption .str input.artifact.thumbnailUrl),
      ("mime_type", input.artifact.mimeType),
      ("filename", Json.ofOption .str input.artifact.filename)]),
    ("publication", .obj [("topic", Json.ofOption nodePayload input.publication.topic),
      ("content", Json.ofOption nodePayload input.publication.content),
      ("recommended_project", Json.ofOption nodePayload input.publication.recommendedProject)])]

/-- The request that `execute_provider` sends. -/
def completionRequest : CompletionRequest where
  model := model cfg input
  instruction := instruction cfg input
  userPayload := userPayload input

end Respond

end KlassGateway.Llm
