import KlassGateway.Orchestrator.Decision
/-!
# The generation spec

Model of `build_generation_spec` in `orchestrator/decision.rs` and of its
normalisation helpers.  The spec is built from the draft when there is one and
from the interpretation blueprint otherwise; a draft may come bare or in an
envelope under `payload`.
-/

namespace KlassGateway.Orchestrator

open Lib

variable (P : Platform)

/-! ## Normalisation helpers -/

/-- `normalize_emphasis`. -/
def normalizeEmphasis (raw : Option String) : String :=
  let r := raw.getD "medium"
  if r ∈ ["short", "brief", "concise", "minimal"] then "short"
  else if r ∈ ["long", "long_text", "detailed", "extensive", "comprehensive"] then "long"
  else "medium"

/-- `normalize_assessment_type`. -/
def normalizeAssessmentType (raw : String) : String :=
  let r := P.toLowercase raw
  if r ∈ ["assessment", "test", "exam", "evaluation"] then "assessment"
  else if r ∈ ["activity", "exercise", "practice", "task"] then "activity"
  else if r ∈ ["reflection", "reflect", "thinking"] then "reflection"
  else if r ∈ ["quiz", "question", "mcq"] then "quiz"
  else if r ∈ ["assignment", "homework", "worksheet"] then "assignment"
  else "activity"

/-- `normalize_body_block_type`. -/
def normalizeBodyBlockType (raw : String) : String :=
  let r := P.toLowercase raw
  if r ∈ ["paragraph", "text", "p"] then "paragraph"
  else if r ∈ ["bullet", "bullets", "list", "ul"] then "bullet"
  else if r ∈ ["checklist", "check", "checkbox"] then "checklist"
  else if r ∈ ["note", "callout", "info"] then "note"
  else "paragraph"

/-- `truncate_field`. -/
def truncateField (s : String) (maxLen : Nat) : String :=
  let trimmed := Text.trim s
  if trimmed.length ≤ maxLen then trimmed else Text.takeChars trimmed (maxLen - 3) ++ "..."

/-- `require_str_bounded`. -/
def requireStrBounded (val : Option String) (fallback : String) (maxLen : Nat) : String :=
  truncateField (val.getD fallback) maxLen

/-! ## Sections -/

/-- `default_section`. -/
def defaultSection (teacherPrompt : String) : Json :=
  let truncated :=
    if 200 < teacherPrompt.length then Text.takeChars teacherPrompt 197 ++ "..." else teacherPrompt
  .obj [("title", truncated), ("purpose", "Deliver the requested learning material."),
    ("body_blocks", .arr [.obj [("type", "paragraph"), ("content", teacherPrompt)]]),
    ("emphasis", "medium")]

/-- The block that stands in for an empty list of blocks. -/
def purposeBlock (purpose : String) : List Json :=
  [.obj [("type", "paragraph"), ("content", purpose)]]

/-- A section with normalised fields. -/
def buildSection (s : Json) (emphasis : Option String) (blocks : Option (List Json)) : Json :=
  let title := (strAt s ["title"]).getD "Untitled Section"
  let purpose := (strAt s ["purpose"]).getD "Section content"
  let bodyBlocks := match blocks with
    | some (b :: bs) => b :: bs
    | _ => purposeBlock purpose
  .obj [("title", truncateField title 200), ("purpose", truncateField purpose 500),
    ("body_blocks", .arr bodyBlocks), ("emphasis", normalizeEmphasis emphasis)]

/-- A body block of a draft, unless its content is empty. -/
def draftBlock (b : Json) : Option Json :=
  let content := (strAt b ["content"]).getD ""
  if content = "" then none
  else some (.obj [("type", normalizeBodyBlockType P ((strAt b ["type"]).getD "paragraph")),
    ("content", truncateField content 1000)])

/-- A section of a draft. -/
def draftSection (s : Json) : Json :=
  buildSection s (strAt s ["emphasis"])
    ((arrayAt s ["body_blocks"]).map fun blocks => blocks.filterMap (draftBlock P))

/-- A bullet of a blueprint section, unless it is empty. -/
def bulletBlock (bullet : Json) : Option Json :=
  let content := bullet.asStr.getD ""
  if content = "" then none
  else some (.obj [("type", "bullet"), ("content", truncateField content 1000)])

/-- A section of the interpretation blueprint. -/
def blueprintSection (s : Json) : Json :=
  buildSection s (strAt s ["estimated_length"])
    ((arrayAt s ["bullets"]).map fun bullets => bullets.filterMap bulletBlock)

/-- The sections, or the default one where there are none. -/
def sectionsOr (teacherPrompt : String) (sections : Option (List Json)) : List Json :=
  match sections with
  | some (s :: ss) => s :: ss
  | _ => [defaultSection teacherPrompt]

/-- `draft.get("payload").unwrap_or(draft)`: unwrap an envelope. -/
def draftContent (draft : Json) : Json := (draft.get "payload").getD draft

/-! ## Other parts -/

/-- An assessment block, unless its instructions are empty. -/
def assessmentBlock (b : Json) : Option Json :=
  let instructions := (strAt b ["instructions"]).getD "Complete the activity."
  if instructions = "" then none
  else some (.obj [("title", (strAt b ["title"]).getD "Activity"),
    ("type", normalizeAssessmentType P ((strAt b ["type"]).getD "activity")),
    ("instructions", instructions)])

/-- An asset with a normalised type. -/
def specAsset (a : Json) : Json :=
  let aType := (strAt a ["type"]).getD "text"
  .obj [("type",
      if aType ∈ ["text", "image", "table", "chart", "diagram", "reference"] then aType
      else "text"),
    ("description", (strAt a ["description"]).getD "Asset"),
    ("required", ((a.get "required").bind Json.asBool).getD false)]

/-- `build_generation_spec`. -/
def buildGenerationSpec (interpretation : Json) (exportFormat : String) (draft : Option Json) :
    Json :=
  let isDeck := exportFormat = "pptx"
  let targetUnits :=
    (strAt interpretation
      ["interpreted_fields", if isDeck then "slide_count" else "page_count"]).bind Text.parseI64
  let teacherPrompt := (strAt interpretation ["teacher_prompt"]).getD "Learning material"
  let content := draft.map draftContent
  let pptxSlides := (content.bind (Json.get "slides")).filter fun s =>
    (s.asArray.getD []) matches _ :: _
  let sections := match content with
    | some c => sectionsOr teacherPrompt
        ((arrayAt c ["sections"]).map fun ss => ss.map (draftSection P))
    | none => sectionsOr teacherPrompt
        ((arrayAt interpretation ["document_blueprint", "sections"]).map
          fun ss => ss.map blueprintSection)
  let assessmentBlocks :=
    ((arrayAt interpretation ["assessment_or_activity_blocks"]).getD []).filterMap
      (assessmentBlock P)
  let tone :=
    ((strAt interpretation ["requested_media_characteristics", "tone"]).or
      (strAt interpretation ["constraints", "tone"])).getD "clear_and_structured"
  let preferences :=
    (arrayAt interpretation ["requested_media_characteristics", "format_preferences"]).getD []
  let assets := ((arrayAt interpretation ["assets"]).getD []).map specAsset
  let orNull (v : Option Json) : Json := v.getD .null
  .obj [
    ("schema_version", "media_generation_spec.v1"),
    ("source_interpretation_schema_version",
      (strAt interpretation ["schema_version"]).getD "media_prompt_understanding.v1"),
    ("export_format", exportFormat),
    ("title",
      requireStrBounded (strAt interpretation ["document_blueprint", "title"]) teacherPrompt 200),
    ("language", (strAt interpretation ["language"]).getD "id"),
    ("summary",
      requireStrBounded (strAt interpretation ["document_blueprint", "summary"]) teacherPrompt
        1000),
    ("learning_objectives", .arr
      (((arrayAt interpretation ["learning_objectives"]).getD []).map fun v =>
        .str (P.objectiveText v))),
    ("sections", .arr sections),
    ("layout_hints", .obj [
      ("document_mode", if isDeck then "slide_deck" else "document"),
      ("visual_density",
        (strAt interpretation ["requested_media_characteristics", "visual_density"]).getD
          "medium"),
      ("section_count", (sections.length : Int)),
      ("asset_count", (assets.length : Int)),
      ("assessment_block_count", (assessmentBlocks.length : Int))]),
    ("style_hints", .obj [
      ("tone", truncateField tone 100),
      ("audience_level",
        truncateField ((strAt interpretation ["target_audience", "level"]).getD "general") 100),
      ("format_preferences",
        .arr (if preferences.isEmpty then [.str exportFormat] else preferences))]),
    ("page_or_slide_structure", .obj [
      ("unit_type", if isDeck then "slide" else "page"),
      ("total_units", targetUnits.getD
        (1 + (sections.length : Int) + if assessmentBlocks.isEmpty then 0 else 1)),
      ("opening_unit", true),
      ("section_units", (sections.length : Int)),
      ("closing_unit", !assessmentBlocks.isEmpty),
      ("requested_units", Json.ofOption (fun n : Int => n) targetUnits)]),
    ("content_context", .obj [
      ("subject_context", orNull (interpretation.get "subject_context")),
      ("sub_subject_context", orNull (interpretation.get "sub_subject_context")),
      ("target_audience", orNull (interpretation.get "target_audience"))]),
    ("assets", .arr assets),
    ("assessment_or_activity_blocks", .arr assessmentBlocks),
    ("teacher_delivery_summary",
      requireStrBounded (strAt interpretation ["teacher_delivery_summary"]) teacherPrompt 1000),
    ("pptx_slides", orNull pptxSlides),
    ("pptx_presentation_title",
      Json.ofOption .str (content.bind fun c => strAt c ["presentation_title"])),
    ("pptx_theme_suggestion",
      Json.ofOption .str (content.bind fun c => strAt c ["theme_suggestion"])),
    ("contract_versions", .obj [
      ("generator_output_metadata", "media_generator_output_metadata.v1")])]

end KlassGateway.Orchestrator
