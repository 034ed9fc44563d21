import KlassGateway.Contracts.PromptInterpretation
/-!
# Decoding and serialising an interpretation

The derived `Deserialize` and `Serialize` of the records of
`contracts/prompt_interpretation.rs`.

* A field that is read with a lenient deserialiser accepts every value.
* A number that is not finite is written as `null`.
* `meta_repairs` has the alias `_meta_repairs`; an object with both keys does
  not decode.
-/

namespace KlassGateway.Contracts.PromptInterpretation

open Lib Lib.Json

variable (P : ContractPlatform)

/-! ## Decoding -/

/-- The fields of `TeacherIntent`. -/
def TeacherIntent.names : List String :=
  ["type", "goal", "preferred_delivery_mode", "requires_clarification"]

/-- The derived `Deserialize` of `TeacherIntent`. -/
def TeacherIntent.decode : Decoder TeacherIntent := record names 4 fun v => do
  let type ← field "type" asStr v
  let goal ← field "goal" asStr v
  let preferredDeliveryMode ← field "preferred_delivery_mode" asStr v
  let requiresClarification ← lenient "requires_clarification" (lenientBool P) v
  return { type, goal, preferredDeliveryMode, requiresClarification }

/-- The fields of `InterpretationConstraints`. -/
def InterpretationConstraints.names : List String :=
  ["preferred_output_type", "max_duration_minutes", "must_include", "avoid", "tone"]

/-- The derived `Deserialize` of `InterpretationConstraints`. -/
def InterpretationConstraints.decode : Decoder InterpretationConstraints :=
  record names 0 fun v => do
  let preferredOutputType ← fieldOr "preferred_output_type" "auto" asStr v
  let maxDurationMinutes ← lenientOr "max_duration_minutes" optionalI32 v
  let mustInclude ← texts "must_include" v
  let avoid ← texts "avoid" v
  let tone ← optionalText "tone" v
  return { preferredOutputType, maxDurationMinutes, mustInclude, avoid, tone }

/-- The fields of `OutputCandidate`. -/
def OutputCandidate.names : List String := ["type", "score", "reason"]

/-- The derived `Deserialize` of `OutputCandidate`. -/
def OutputCandidate.decode : Decoder OutputCandidate := record names 3 fun v => do
  let type ← field "type" asStr v
  let score ← lenient "score" (lenientF64 P) v
  let reason ← field "reason" asStr v
  return { type, score, reason }

/-- The fields of `BlueprintSection`. -/
def BlueprintSection.names : List String := ["title", "purpose", "bullets", "estimated_length"]

/-- The derived `Deserialize` of `BlueprintSection`. -/
def BlueprintSection.decode : Decoder BlueprintSection := record names 4 fun v => do
  let title ← field "title" asStr v
  let purpose ← field "purpose" asStr v
  let bullets ← field "bullets" (list asStr) v
  let estimatedLength ← field "estimated_length" asStr v
  return { title, purpose, bullets, estimatedLength }

/-- The fields of `DocumentBlueprint`. -/
def DocumentBlueprint.names : List String := ["title", "summary", "sections"]

/-- The derived `Deserialize` of `DocumentBlueprint`. -/
def DocumentBlueprint.decode : Decoder DocumentBlueprint := record names 3 fun v => do
  let title ← field "title" asStr v
  let summary ← field "summary" asStr v
  let sections ← field "sections" (list BlueprintSection.decode) v
  return { title, summary, sections }

/-- The fields of `SubjectContext`. -/
def SubjectContext.names : List String := ["subject_name", "subject_slug"]

/-- The derived `Deserialize` of `SubjectContext`. -/
def SubjectContext.decode : Decoder SubjectContext := record names 1 fun v => do
  let subjectName ← field "subject_name" asStr v
  let subjectSlug ← optionalText "subject_slug" v
  return { subjectName, subjectSlug }

/-- The fields of `SubSubjectContext`. -/
def SubSubjectContext.names : List String := ["sub_subject_name", "sub_subject_slug"]

/-- The derived `Deserialize` of `SubSubjectContext`. -/
def SubSubjectContext.decode : Decoder SubSubjectContext := record names 1 fun v => do
  let subSubjectName ← field "sub_subject_name" asStr v
  let subSubjectSlug ← optionalText "sub_subject_slug" v
  return { subSubjectName, subSubjectSlug }

/-- The fields of `TargetAudience`. -/
def TargetAudience.names : List String := ["label", "level", "age_range"]

/-- The derived `Deserialize` of `TargetAudience`. -/
def TargetAudience.decode : Decoder TargetAudience := record names 1 fun v => do
  let label ← field "label" asStr v
  let level ← optionalText "level" v
  let ageRange ← optionalText "age_range" v
  return { label, level, ageRange }

/-- The fields of `RequestedMediaCharacteristics`. -/
def RequestedMediaCharacteristics.names : List String :=
  ["tone", "format_preferences", "visual_density"]

/-- The derived `Deserialize` of `RequestedMediaCharacteristics`. -/
def RequestedMediaCharacteristics.decode : Decoder RequestedMediaCharacteristics :=
  record names 0 fun v => do
    let tone ← optionalText "tone" v
    let formatPreferences ← texts "format_preferences" v
    let visualDensity ← optionalText "visual_density" v
    return { tone, formatPreferences, visualDensity }

/-- The fields of `Asset`. -/
def Asset.names : List String := ["type", "description", "required"]

/-- The derived `Deserialize` of `Asset`. -/
def Asset.decode : Decoder Asset := record names 3 fun v => do
  let type ← field "type" asStr v
  let description ← field "description" asStr v
  let required ← lenient "required" (lenientBool P) v
  return { type, description, required }

/-- The fields of `AssessmentBlock`. -/
def AssessmentBlock.names : List String := ["title", "type", "instructions"]

/-- The derived `Deserialize` of `AssessmentBlock`. -/
def AssessmentBlock.decode : Decoder AssessmentBlock := record names 3 fun v => do
  let title ← field "title" asStr v
  let type ← field "type" asStr v
  let instructions ← field "instructions" asStr v
  return { title, type, instructions }

/-- The fields of `Confidence`. -/
def Confidence.names : List String := ["score", "label", "rationale"]

/-- The derived `Deserialize` of `Confidence`. -/
def Confidence.decode : Decoder Confidence := record names 2 fun v => do
  let score ← lenient "score" (lenientF64 P) v
  let label ← field "label" asStr v
  let rationale ← optionalText "rationale" v
  return { score, label, rationale }

/-- The fields of `ContentIntegrity`. -/
def ContentIntegrity.names : List String :=
  ["integrity_score", "violations", "classification_source", "meta_repairs"]

/-- The derived `Deserialize` of `ContentIntegrity`. -/
def ContentIntegrity.decode : Decoder ContentIntegrity := record names 3 fun v => do
  let integrityScore ← lenient "integrity_score" (lenientF64 P) v
  let violations ← fieldOr "violations" [] (list some) v
  let classificationSource ← field "classification_source" asStr v
  let metaRepairs ← fieldOr "meta_repairs" none (nullable some) v
  return { integrityScore, violations, classificationSource, metaRepairs }

/-- The fields of `PlanMode`. -/
def PlanMode.names : List String :=
  ["active", "reason", "detected_content_type", "content_type_confidence"]

/-- The derived `Deserialize` of `PlanMode`. -/
def PlanMode.decode : Decoder PlanMode := record names 1 fun v => do
  let active ← lenient "active" (lenientBool P) v
  let reason ← optionalText "reason" v
  let detectedContentType ← optionalText "detected_content_type" v
  let contentTypeConfidence ← lenientOr "content_type_confidence" (optionalF64 P) v
  return { active, reason, detectedContentType, contentTypeConfidence }

/-- The fields of `InterpretedFields`. -/
def InterpretedFields.names : List String :=
  ["target_audience", "output_type", "subject", "topic", "learning_objectives", "page_count",
    "difficulty_level", "include_activities", "slide_count", "question_count", "meeting_duration",
    "teaching_method", "assessment_method", "visual_density", "speaker_notes", "question_type"]

/-- The derived `Deserialize` of `InterpretedFields`. -/
def InterpretedFields.decode : Decoder InterpretedFields := record names 0 fun v => do
  let targetAudience ← lenientOr "target_audience" (optionalString P) v
  let outputType ← lenientOr "output_type" (optionalString P) v
  let subject ← lenientOr "subject" (optionalString P) v
  let topic ← lenientOr "topic" (optionalString P) v
  let learningObjectives ← fieldOr "learning_objectives" none (nullable (list asStr)) v
  let pageCount ← lenientOr "page_count" (optionalString P) v
  let difficultyLevel ← lenientOr "difficulty_level" (optionalString P) v
  let includeActivities ← lenientOr "include_activities" (optionalBool P) v
  let slideCount ← lenientOr "slide_count" (optionalString P) v
  let questionCount ← fieldOr "question_count" none (nullable i32) v
  let meetingDuration ← lenientOr "meeting_duration" (optionalString P) v
  let teachingMethod ← lenientOr "teaching_method" (optionalString P) v
  let assessmentMethod ← lenientOr "assessment_method" (optionalString P) v
  let visualDensity ← lenientOr "visual_density" (optionalString P) v
  let speakerNotes ← lenientOr "speaker_notes" (optionalString P) v
  let questionType ← lenientOr "question_type" (optionalString P) v
  return { targetAudience, outputType, subject, topic, learningObjectives, pageCount,
           difficultyLevel, includeActivities, slideCount, questionCount, meetingDuration,
           teachingMethod, assessmentMethod, visualDensity, speakerNotes, questionType }

/-- The fields of `MissingField`. -/
def MissingField.names : List String :=
  ["field_id", "field_label", "priority", "question", "suggestions", "input_type"]

/-- The derived `Deserialize` of `MissingField`. -/
def MissingField.decode : Decoder MissingField := record names 6 fun v => do
  let fieldId ← field "field_id" asStr v
  let fieldLabel ← field "field_label" asStr v
  let priority ← field "priority" asStr v
  let question ← field "question" asStr v
  let suggestions ← fieldOr "suggestions" [] (list some) v
  let inputType ← field "input_type" asStr v
  return { fieldId, fieldLabel, priority, question, suggestions, inputType }

/-- The fields of `InterpretationFallback`. -/
def InterpretationFallback.names : List String := ["triggered", "reason_code", "action"]

/-- The derived `Deserialize` of `InterpretationFallback`. -/
def InterpretationFallback.decode : Decoder InterpretationFallback := record names 0 fun v => do
  let triggered ← fieldOr "triggered" false asBool v
  let reasonCode ← optionalText "reason_code" v
  let action ← optionalText "action" v
  return { triggered, reasonCode, action }

/-- `meta_repairs` of the payload, under its name or its alias but not both. -/
def metaRepairsField : Decoder (Option Json) := fun v =>
  match v.get "meta_repairs", v.get "_meta_repairs" with
  | some _, some _ => none
  | some x, none => nullable some x
  | none, some x => nullable some x
  | none, none => some none

/-- The fields of `InterpretationPayload`. -/
def InterpretationPayload.names : List String :=
  ["schema_version", "teacher_prompt", "language", "teacher_intent", "learning_objectives",
    "constraints", "output_type_candidates", "resolved_output_type_reasoning",
    "document_blueprint", "subject_context", "sub_subject_context", "target_audience",
    "requested_media_characteristics", "assets", "assessment_or_activity_blocks",
    "teacher_delivery_summary", "confidence", "fallback", "content_integrity", "meta_repairs",
    "plan_mode", "interpreted_fields", "missing_fields"]

/-- The derived `Deserialize` of `InterpretationPayload`. -/
def InterpretationPayload.decode : Decoder InterpretationPayload := record names 17 fun v => do
  let schemaVersion ← field "schema_version" asStr v
  let teacherPrompt ← field "teacher_prompt" asStr v
  let language ← field "language" asStr v
  let teacherIntent ← field "teacher_intent" (TeacherIntent.decode P) v
  let learningObjectives ← texts "learning_objectives" v
  let constraints ← field "constraints" InterpretationConstraints.decode v
  let outputTypeCandidates ← field "output_type_candidates" (list (OutputCandidate.decode P)) v
  let resolvedOutputTypeReasoning ← field "resolved_output_type_reasoning" asStr v
  let documentBlueprint ← field "document_blueprint" DocumentBlueprint.decode v
  let subjectContext ← fieldOr "subject_context" none (nullable SubjectContext.decode) v
  let subSubjectContext ← fieldOr "sub_subject_context" none (nullable SubSubjectContext.decode) v
  let targetAudience ← fieldOr "target_audience" none (nullable TargetAudience.decode) v
  let requestedMediaCharacteristics ←
    fieldOr "requested_media_characteristics" {} RequestedMediaCharacteristics.decode v
  let assets ← fieldOr "assets" [] (list (Asset.decode P)) v
  let assessmentOrActivityBlocks ←
    fieldOr "assessment_or_activity_blocks" [] (list AssessmentBlock.decode) v
  let teacherDeliverySummary ← field "teacher_delivery_summary" asStr v
  let confidence ← field "confidence" (Confidence.decode P) v
  let fallback ← fieldOr "fallback" {} InterpretationFallback.decode v
  let contentIntegrity ← fieldOr "content_integrity" none (nullable (ContentIntegrity.decode P)) v
  let metaRepairs ← metaRepairsField v
  let planMode ← fieldOr "plan_mode" {} (PlanMode.decode P) v
  let interpretedFields ←
    fieldOr "interpreted_fields" none (nullable (InterpretedFields.decode P)) v
  let missingFields ← fieldOr "missing_fields" [] (list MissingField.decode) v
  return { schemaVersion, teacherPrompt, language, teacherIntent, learningObjectives, constraints,
           outputTypeCandidates, resolvedOutputTypeReasoning, documentBlueprint, subjectContext,
           subSubjectContext, targetAudience, requestedMediaCharacteristics, assets,
           assessmentOrActivityBlocks, teacherDeliverySummary, confidence, fallback,
           contentIntegrity, metaRepairs, planMode, interpretedFields, missingFields }

theorem lenient_isSome {α : Type} {key : String} {d : Json → α} {v : Json} :
    (lenient key d v).isSome = (v.get key).isSome := by
  unfold lenient field
  cases v.get key <;> rfl

theorem lenientOr_isSome {α : Type} {key : String} {d : Json → Option α} {v : Json} :
    (lenientOr key d v).isSome := by
  unfold lenientOr fieldOr
  cases v.get key <;> rfl

theorem texts_isSome {key : String} {v : Json} :
    (texts key v).isSome ↔ WhenPresent key (IsList IsText) v := by
  simp only [texts, fieldOr_isSome, list_isSome, asStr_isSome]

/-! ## Serialising -/

/-- An optional text that is skipped when it is `None`. -/
def skipText (key : String) (s : Option String) : List (String × Json) :=
  skipNone key (s.map .str)

/-- The derived `Serialize` of `TeacherIntent`. -/
def TeacherIntent.toJson (i : TeacherIntent) : Json :=
  .obj [("type", i.type), ("goal", i.goal), ("preferred_delivery_mode", i.preferredDeliveryMode),
    ("requires_clarification", i.requiresClarification)]

/-- The derived `Serialize` of `InterpretationConstraints`. -/
def InterpretationConstraints.toJson (c : InterpretationConstraints) : Json :=
  .obj <| [("preferred_output_type", .str c.preferredOutputType)] ++
    skipNone "max_duration_minutes" (c.maxDurationMinutes.map fun n => .num (.int n)) ++
    [("must_include", textArray c.mustInclude), ("avoid", textArray c.avoid)] ++
    skipText "tone" c.tone

/-- The derived `Serialize` of `OutputCandidate`. -/
def OutputCandidate.toJson (c : OutputCandidate) : Json :=
  .obj [("type", c.type), ("score", c.score.toJson), ("reason", c.reason)]

/-- The derived `Serialize` of `BlueprintSection`. -/
def BlueprintSection.toJson (s : BlueprintSection) : Json :=
  .obj [("title", s.title), ("purpose", s.purpose), ("bullets", textArray s.bullets),
    ("estimated_length", s.estimatedLength)]

/-- The derived `Serialize` of `DocumentBlueprint`. -/
def DocumentBlueprint.toJson (b : DocumentBlueprint) : Json :=
  .obj [("title", b.title), ("summary", b.summary),
    ("sections", .arr (b.sections.map BlueprintSection.toJson))]

/-- The derived `Serialize` of `SubjectContext`. -/
def SubjectContext.toJson (c : SubjectContext) : Json :=
  .obj <| [("subject_name", .str c.subjectName)] ++ skipText "subject_slug" c.subjectSlug

/-- The derived `Serialize` of `SubSubjectContext`. -/
def SubSubjectContext.toJson (c : SubSubjectContext) : Json :=
  .obj <| [("sub_subject_name", .str c.subSubjectName)] ++
    skipText "sub_subject_slug" c.subSubjectSlug

/-- The derived `Serialize` of `TargetAudience`. -/
def TargetAudience.toJson (a : TargetAudience) : Json :=
  .obj <| [("label", .str a.label)] ++ skipText "level" a.level ++ skipText "age_range" a.ageRange

/-- The derived `Serialize` of `RequestedMediaCharacteristics`. -/
def RequestedMediaCharacteristics.toJson (c : RequestedMediaCharacteristics) : Json :=
  .obj <| skipText "tone" c.tone ++ [("format_preferences", textArray c.formatPreferences)] ++
    skipText "visual_density" c.visualDensity

/-- The derived `Serialize` of `Asset`. -/
def Asset.toJson (a : Asset) : Json :=
  .obj [("type", a.type), ("description", a.description), ("required", a.required)]

/-- The derived `Serialize` of `AssessmentBlock`. -/
def AssessmentBlock.toJson (b : AssessmentBlock) : Json :=
  .obj [("title", b.title), ("type", b.type), ("instructions", b.instructions)]

/-- The derived `Serialize` of `Confidence`. -/
def Confidence.toJson (c : Confidence) : Json :=
  .obj <| [("score", c.score.toJson), ("label", .str c.label)] ++ skipText "rationale" c.rationale

/-- The derived `Serialize` of `ContentIntegrity`. -/
def ContentIntegrity.toJson (c : ContentIntegrity) : Json :=
  .obj <| [("integrity_score", c.integrityScore.toJson), ("violations", .arr c.violations),
    ("classification_source", .str c.classificationSource)] ++ skipNone "meta_repairs" c.metaRepairs

/-- The derived `Serialize` of `PlanMode`. -/
def PlanMode.toJson (m : PlanMode) : Json :=
  .obj <| [("active", .bool m.active)] ++ skipText "reason" m.reason ++
    skipText "detected_content_type" m.detectedContentType ++
    skipNone "content_type_confidence" (m.contentTypeConfidence.map F64.toJson)

/-- The derived `Serialize` of `InterpretedFields`. -/
def InterpretedFields.toJson (f : InterpretedFields) : Json :=
  .obj <| skipText "target_audience" f.targetAudience ++ skipText "output_type" f.outputType ++
    skipText "subject" f.subject ++ skipText "topic" f.topic ++
    skipNone "learning_objectives" (f.learningObjectives.map textArray) ++
    skipText "page_count" f.pageCount ++ skipText "difficulty_level" f.difficultyLevel ++
    skipNone "include_activities" (f.includeActivities.map .bool) ++
    skipText "slide_count" f.slideCount ++
    skipNone "question_count" (f.questionCount.map fun n => .num (.int n)) ++
    skipText "meeting_duration" f.meetingDuration ++ skipText "teaching_method" f.teachingMethod ++
    skipText "assessment_method" f.assessmentMethod ++ skipText "visual_density" f.visualDensity ++
    skipText "speaker_notes" f.speakerNotes ++ skipText "question_type" f.questionType

/-- The derived `Serialize` of `MissingField`. -/
def MissingField.toJson (f : MissingField) : Json :=
  .obj [("field_id", f.fieldId), ("field_label", f.fieldLabel), ("priority", f.priority),
    ("question", f.question), ("suggestions", .arr f.suggestions), ("input_type", f.inputType)]

/-- The derived `Serialize` of `InterpretationFallback`. -/
def InterpretationFallback.toJson (f : InterpretationFallback) : Json :=
  .obj <| [("triggered", .bool f.triggered)] ++ skipText "reason_code" f.reasonCode ++
    skipText "action" f.action

/-- The derived `Serialize` of `InterpretationPayload`. -/
def InterpretationPayload.toJson (p : InterpretationPayload) : Json :=
  .obj <| [("schema_version", .str p.schemaVersion), ("teacher_prompt", .str p.teacherPrompt),
      ("language", .str p.language), ("teacher_intent", p.teacherIntent.toJson),
      ("learning_objectives", textArray p.learningObjectives),
      ("constraints", p.constraints.toJson),
      ("output_type_candidates", .arr (p.outputTypeCandidates.map OutputCandidate.toJson)),
      ("resolved_output_type_reasoning", .str p.resolvedOutputTypeReasoning),
      ("document_blueprint", p.documentBlueprint.toJson)] ++
    skipNone "subject_context" (p.subjectContext.map SubjectContext.toJson) ++
    skipNone "sub_subject_context" (p.subSubjectContext.map SubSubjectContext.toJson) ++
    skipNone "target_audience" (p.targetAudience.map TargetAudience.toJson) ++
    [("requested_media_characteristics", p.requestedMediaCharacteristics.toJson),
      ("assets", .arr (p.assets.map Asset.toJson)),
      ("assessment_or_activity_blocks",
        .arr (p.assessmentOrActivityBlocks.map AssessmentBlock.toJson)),
      ("teacher_delivery_summary", .str p.teacherDeliverySummary),
      ("confidence", p.confidence.toJson), ("fallback", p.fallback.toJson)] ++
    skipNone "content_integrity" (p.contentIntegrity.map ContentIntegrity.toJson) ++
    skipNone "meta_repairs" p.metaRepairs ++ [("plan_mode", p.planMode.toJson)] ++
    skipNone "interpreted_fields" (p.interpretedFields.map InterpretedFields.toJson) ++
    [("missing_fields", .arr (p.missingFields.map MissingField.toJson))]

/-! ## Numbers -/

/-- A 32-bit number. -/
def IsI32 (n : Int) : Prop := -(2 ^ 31) ≤ n ∧ n < 2 ^ 31

theorem i32_int {n : Int} (h : IsI32 n) : i32 (.num (.int n)) = some n := if_pos h

theorem optionalI32_int {n : Int} (h : IsI32 n) : optionalI32 (.num (.int n)) = some n := by
  obtain ⟨hlo, hhi⟩ := h
  have hbmod : Int.bmod n (2 ^ 32) = n := by
    apply Int.bmod_eq_of_le <;> omega
  change (if -(2 ^ 63) ≤ n ∧ n < 2 ^ 63 then some (Int.bmod n (2 ^ 32)) else none) = some n
  rw [if_pos ⟨by omega, by omega⟩, hbmod]

end KlassGateway.Contracts.PromptInterpretation
