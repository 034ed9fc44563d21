import KlassGateway.Contracts.PlanMode
import KlassGateway.System
/-!
# What a regenerated plan mode says

The plan mode, the missing fields and the interpreted fields are derived from
one payload by functions that each have their own test of presence.

* `regeneratePlanMode_idem`: what was derived is derived again.
* `missing_fieldIds`: the missing fields are the required ones that are absent.
* `regeneratePlanMode_consistent_iff`: when no missing field has an interpreted
  value.
-/

namespace KlassGateway.Contracts.PromptInterpretation

variable (P : Platform)

/-- Whether a field has an interpreted value. -/
def InterpretedFields.present (f : InterpretedFields) (fieldId : String) : Bool :=
  if fieldId = "target_audience" then f.targetAudience.isSome
  else if fieldId = "output_type" then f.outputType.isSome
  else if fieldId = "subject" then f.subject.isSome
  else if fieldId = "topic" then f.topic.isSome
  else if fieldId = "learning_objectives" then f.learningObjectives.isSome
  else if fieldId = "page_count" then f.pageCount.isSome
  else if fieldId = "difficulty_level" then f.difficultyLevel.isSome
  else if fieldId = "include_activities" then f.includeActivities.isSome
  else if fieldId = "slide_count" then f.slideCount.isSome
  else if fieldId = "question_count" then f.questionCount.isSome
  else if fieldId = "meeting_duration" then f.meetingDuration.isSome
  else if fieldId = "teaching_method" then f.teachingMethod.isSome
  else if fieldId = "assessment_method" then f.assessmentMethod.isSome
  else if fieldId = "visual_density" then f.visualDensity.isSome
  else if fieldId = "speaker_notes" then f.speakerNotes.isSome
  else if fieldId = "question_type" then f.questionType.isSome
  else false

/-- The parts of a payload with a regenerated plan mode agree with each other. -/
structure Consistent (r : InterpretationPayload) : Prop where
  idem : regeneratePlanMode P r = r
  active_iff : r.planMode.active = true ↔ r.missingFields ≠ []
  clarification : r.teacherIntent.requiresClarification = r.planMode.active
  missing : ∃ contentType, r.planMode.detectedContentType = some contentType ∧
    r.missingFields.map MissingField.fieldId =
      (contentTypeRequiredFields contentType).filter fun fieldId => !isPresent r fieldId
  apart : ∀ m ∈ r.missingFields, ∀ fields ∈ r.interpretedFields, fields.present m.fieldId = false

/-- What is missing for the content type is not to be found elsewhere either:
not among the values interpreted before, and for the output type not among the
candidates. -/
structure AbsentEverywhere (p : InterpretationPayload) : Prop where
  audience : p.targetAudience = none →
    p.interpretedFields.bind InterpretedFields.targetAudience = none
  outputType : "output_type" ∈ contentTypeRequiredFields (detectContentTypeFromPayload P p) →
    p.constraints.preferredOutputType = "auto" →
    p.outputTypeCandidates = [] ∧ p.interpretedFields.bind InterpretedFields.outputType = none
  objectives : "learning_objectives" ∈
      contentTypeRequiredFields (detectContentTypeFromPayload P p) →
    p.learningObjectives = [] →
    p.interpretedFields.bind InterpretedFields.learningObjectives = none

variable {P} {p : InterpretationPayload}

/-! ## Deriving twice -/

theorem or_self_or {α : Type} (a b : Option α) : a.or (a.or b) = a.or b := by
  cases a <;> rfl

/-- What was interpreted is kept. -/
theorem buildInterpretedFields_idem :
    buildInterpretedFields (regeneratePlanMode P p) = buildInterpretedFields p := by
  simp only [buildInterpretedFields, regeneratePlanMode, Option.bind_some]
  congr 1 <;> exact or_self_or _ _

theorem isPresent_regeneratePlanMode (fieldId : String) :
    isPresent (regeneratePlanMode P p) fieldId = isPresent p fieldId := rfl

theorem findMissing_regeneratePlanMode (required : List String) :
    findMissingRequiredFields (regeneratePlanMode P p) required =
      findMissingRequiredFields p required := by
  simp only [findMissingRequiredFields, isPresent_regeneratePlanMode]

theorem regeneratePlanMode_idem :
    regeneratePlanMode P (regeneratePlanMode P p) = regeneratePlanMode P p := by
  have hfields := buildInterpretedFields_idem (P := P) (p := p)
  have hmissing := findMissing_regeneratePlanMode (P := P) (p := p)
    (contentTypeRequiredFields (detectContentTypeFromPayload P p))
  have htype : detectContentTypeFromPayload P (regeneratePlanMode P p) =
      detectContentTypeFromPayload P p := rfl
  have hquestion : generateContextualMissingField (regeneratePlanMode P p) =
      generateContextualMissingField p := rfl
  rw [regeneratePlanMode, hfields, htype, hmissing, hquestion]
  rfl

/-! ## Missing fields -/

theorem fieldId_generateContextualMissingField (p : InterpretationPayload)
    (contentType fieldId : String) :
    (generateContextualMissingField p contentType fieldId).fieldId = fieldId := by
  unfold generateContextualMissingField
  dsimp only
  split_ifs with h h h h h
  all_goals first | exact h.symm | rfl

/-- The missing fields are the required ones that are absent, in their order. -/
theorem missing_fieldIds :
    (regeneratePlanMode P p).missingFields.map MissingField.fieldId =
      findMissingRequiredFields p
        (contentTypeRequiredFields (detectContentTypeFromPayload P p)) := by
  simp only [regeneratePlanMode, List.map_map]
  exact List.map_id'' (fun fieldId => fieldId_generateContextualMissingField p _ fieldId) _

theorem audience_required (contentType : String) :
    "target_audience" ∈ contentTypeRequiredFields contentType := by
  unfold contentTypeRequiredFields
  split_ifs <;> simp

theorem required_cases {contentType fieldId : String}
    (h : fieldId ∈ contentTypeRequiredFields contentType) :
    fieldId = "target_audience" ∨ fieldId = "output_type" ∨ fieldId = "learning_objectives" ∨
      fieldId = "difficulty_level" ∨ fieldId = "question_count" := by
  unfold contentTypeRequiredFields at h
  split_ifs at h <;> simp at h <;> tauto

/-! ## Missing and interpreted -/

theorem audience_of_absent (h : p.targetAudience = none) :
    (buildInterpretedFields p).targetAudience =
      p.interpretedFields.bind InterpretedFields.targetAudience := by
  simp [buildInterpretedFields, h]

theorem outputType_of_auto (h : p.constraints.preferredOutputType = "auto") :
    (buildInterpretedFields p).outputType =
      (p.outputTypeCandidates.head?.map OutputCandidate.type).or
        (p.interpretedFields.bind InterpretedFields.outputType) := by
  simp [buildInterpretedFields, h]

theorem objectives_of_absent (h : p.learningObjectives = []) :
    (buildInterpretedFields p).learningObjectives =
      p.interpretedFields.bind InterpretedFields.learningObjectives := by
  simp [buildInterpretedFields, h]

/-- No required field is both absent and interpreted exactly when it is absent
everywhere. -/
theorem apart_iff :
    (∀ fieldId ∈ findMissingRequiredFields p
        (contentTypeRequiredFields (detectContentTypeFromPayload P p)),
      (buildInterpretedFields p).present fieldId = false) ↔ AbsentEverywhere P p := by
  constructor
  · intro h
    have hmissing {fieldId : String}
        (hrequired : fieldId ∈ contentTypeRequiredFields (detectContentTypeFromPayload P p))
        (habsent : isPresent p fieldId = false) :=
      h fieldId (List.mem_filter.2 ⟨hrequired, by rw [habsent]; rfl⟩)
    refine ⟨fun habsent => ?_, fun hrequired hauto => ?_, fun hrequired habsent => ?_⟩
    · have hfield := hmissing (audience_required _) (by simp [isPresent, habsent])
      rw [← audience_of_absent habsent]
      exact Option.isSome_eq_false_iff.1 hfield |> Option.isNone_iff_eq_none.1
    · have hfield := hmissing hrequired (by simp [isPresent, hauto])
      have hnone : (buildInterpretedFields p).outputType = none := by
        simpa [InterpretedFields.present] using hfield
      rw [outputType_of_auto hauto, Option.or_eq_none_iff] at hnone
      obtain ⟨hcandidates, hexisting⟩ := hnone
      exact ⟨by simpa using hcandidates, hexisting⟩
    · have hfield := hmissing hrequired (by simp [isPresent, habsent])
      rw [← objectives_of_absent habsent]
      simpa [InterpretedFields.present] using hfield
  · intro h fieldId hfield
    obtain ⟨hrequired, habsent⟩ := List.mem_filter.1 hfield
    rcases required_cases hrequired with rfl | rfl | rfl | rfl | rfl
    · have hnone : p.targetAudience = none := by simpa [isPresent] using habsent
      simp [InterpretedFields.present, audience_of_absent hnone, h.audience hnone]
    · have hauto : p.constraints.preferredOutputType = "auto" := by simpa [isPresent] using habsent
      obtain ⟨hcandidates, hexisting⟩ := h.outputType hrequired hauto
      simp [InterpretedFields.present, outputType_of_auto hauto, hcandidates, hexisting]
    · have hnil : p.learningObjectives = [] := by simpa [isPresent] using habsent
      simp [InterpretedFields.present, objectives_of_absent hnil, h.objectives hrequired hnil]
    · have hnone : p.interpretedFields.bind InterpretedFields.difficultyLevel = none := by
        simpa [isPresent] using habsent
      simp [InterpretedFields.present, buildInterpretedFields, hnone]
    · have hnone : p.interpretedFields.bind InterpretedFields.questionCount = none := by
        simpa [isPresent] using habsent
      simp [InterpretedFields.present, buildInterpretedFields, hnone]

/-- Regenerating leaves a consistent payload exactly when what is missing is
absent everywhere. -/
theorem regeneratePlanMode_consistent_iff (P : Platform) (p : InterpretationPayload) :
    Consistent P (regeneratePlanMode P p) ↔ AbsentEverywhere P p := by
  rw [← apart_iff]
  have hids := missing_fieldIds (P := P) (p := p)
  constructor
  · intro h fieldId hfield
    rw [← hids] at hfield
    obtain ⟨m, hm, rfl⟩ := List.mem_map.1 hfield
    exact h.apart m hm _ rfl
  · intro h
    refine ⟨regeneratePlanMode_idem, ?_, rfl, ⟨_, rfl, hids⟩, ?_⟩
    · simp [regeneratePlanMode]
    · intro m hm fields hfields
      cases hfields
      apply h
      rw [← hids]
      exact List.mem_map_of_mem hm

/-- An audience that was interpreted from the prompt but stands in no field of
its own is asked for again. -/
theorem audience_missing_and_interpreted :
    ¬ Consistent asciiPlatform (regeneratePlanMode asciiPlatform
      { fallback asciiPlatform "Buatkan materi fotosintesis kelas 8" "pdf" with
        interpretedFields := some { targetAudience := some "SMP Kelas 8" } }) := by
  rw [regeneratePlanMode_consistent_iff]
  intro h
  have hnone : some "SMP Kelas 8" = none := h.audience rfl
  cases hnone

end KlassGateway.Contracts.PromptInterpretation
