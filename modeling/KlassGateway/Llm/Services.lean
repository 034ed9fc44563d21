import KlassGateway.Base
/-!
# The language model services

Inputs and results of `InterpretService`, `DraftService` and `RespondService`
(`llm/interpret.rs`, `llm/draft.rs`, `llm/respond.rs`), as far as the step
adapters use them.  What a service answers comes from outside the gateway.

Two invariants of the results are fields: an interpretation is a JSON object
with a schema version, and a content draft is a record, so that its JSON has
the keys of the record and no others.
-/

namespace KlassGateway.Llm

open Lib

/-- `NamedContext`: a subject or sub-subject. -/
structure NamedContext where
  id : Int
  name : String
  slug : Option String := none

/-- `InterpretInput`. -/
structure InterpretInput where
  generationId : Uuid
  teacherPrompt : String
  preferredOutputType : String
  subjectContext : Option NamedContext
  subSubjectContext : Option NamedContext

/-- `InterpretationPayload`, as the value that `serde_json::to_value` makes of
it.  Validation guarantees a schema version. -/
structure InterpretationPayload where
  toJson : Json
  isObject : toJson.isObject = true
  schemaVersion : Json.nonEmptyText (toJson.get "schema_version") = true

/-- `InterpretResult`. -/
structure InterpretResult where
  interpretationPayload : InterpretationPayload
  llmProvider : String
  llmModel : String

/-- The errors that the three services share. -/
inductive LlmError where
  | rateLimited
  | provider (message : String)
  | cache (message : String)
  | governance (message : String)
  | contract (message : String)

namespace LlmError

/-- The text that a step adapter makes of a service error. -/
def stepText (step : String) : LlmError → String
  | rateLimited => step ++ ": rate limited by governance — rate limited by governance policy"
  | provider m => step ++ ": provider error — " ++ m
  | cache m => step ++ ": cache error — " ++ m
  | governance m => step ++ ": governance error — " ++ m
  | contract m => step ++ ": contract error — " ++ m

end LlmError

/-- `DraftFallback`. -/
structure DraftFallback where
  triggered : Bool := false
  reasonCode : Option String := none
  action : Option String := none

/-- An entry of an object that is skipped when it is `None`. -/
def skipNone (key : String) : Option Json → List (String × Json)
  | some v => [(key, v)]
  | none => []

namespace DraftFallback

/-- `serde_json::to_value`. -/
def toJson (f : DraftFallback) : Json :=
  .obj ([("triggered", .bool f.triggered)] ++
    skipNone "reason_code" (f.reasonCode.map .str) ++ skipNone "action" (f.action.map .str))

end DraftFallback

/-- `ContentDraftPayload`. -/
structure ContentDraftPayload where
  schemaVersion : String
  title : String
  summary : String
  learningObjectives : List String := []
  sections : List Json := []
  teacherDeliverySummary : String
  fallback : DraftFallback := {}
  slides : Option (List Json) := none
  presentationTitle : Option String := none
  themeSuggestion : Option String := none

namespace ContentDraftPayload

/-- `serde_json::to_value`. -/
def toJson (d : ContentDraftPayload) : Json :=
  .obj ([("schema_version", .str d.schemaVersion), ("title", .str d.title),
    ("summary", .str d.summary), ("learning_objectives", .arr (d.learningObjectives.map .str)),
    ("sections", .arr d.sections), ("teacher_delivery_summary", .str d.teacherDeliverySummary),
    ("fallback", d.fallback.toJson)] ++ skipNone "slides" (d.slides.map .arr) ++
    skipNone "presentation_title" (d.presentationTitle.map .str) ++
    skipNone "theme_suggestion" (d.themeSuggestion.map .str))

/-- A bare draft names no source. -/
theorem get_source_toJson (d : ContentDraftPayload) : d.toJson.get "source" = none := by
  unfold toJson Json.get skipNone
  cases d.slides <;> cases d.presentationTitle <;> cases d.themeSuggestion <;> rfl

end ContentDraftPayload

/-- `DraftInput`. -/
structure DraftInput where
  generationId : Uuid
  interpretation : Json
  resolvedOutputType : String

/-- `DraftResult`.  The source is `provider`, `cache` or `fallback`. -/
structure DraftResult where
  draftPayload : ContentDraftPayload
  source : String
  adapterMetadata : Json

/-- `RespondInput`, without the publication entities. -/
structure RespondInput where
  generationId : Uuid
  title : String
  previewSummary : String
  outputType : String
  fileUrl : String
  mimeType : String
  thumbnailUrl : Option String
  filename : Option String

end KlassGateway.Llm
