import KlassGateway.Llm.Clarification
import KlassGateway.System
/-!
# What an analysis asks

An analysis reports what it detected and asks for what is missing.  The two are
computed apart from each other, on two paths: `preflight` from keywords, and
`preflightWithInterpretation` from an interpretation.

* `mem_computeGaps`, `openRequirements_fieldId_iff`: which fields are asked for.
* `preflight_asksOnce`: the analysis by keywords asks for nothing it has
  detected.
* `preflightWithInterpretation_asksOnce_iff`: when the other one does not.
-/

namespace KlassGateway.Llm

open Lib Standards

/-- A response asks once for what is missing, not for what was detected, and
counts what it asks. -/
structure AsksOnce (r : ClarificationResponse) : Prop where
  audience : ∀ a, r.detected.audience = some a → a ≠ "" →
    "target_audience" ∉ r.gaps.map ContentGap.fieldId
  outputType : ∀ o, r.detected.outputType = some o → o ≠ "" →
    "output_type" ∉ r.gaps.map ContentGap.fieldId
  distinct : (r.gaps.map ContentGap.fieldId).Nodup
  required : r.totalRequiredGaps = r.gaps.countP fun g => g.priority = "required"
  recommended : r.totalRecommendedGaps = r.gaps.countP fun g => g.priority = "recommended"
  ready : r.isReady = true ↔ ∀ g ∈ r.gaps, g.priority ≠ "required"

variable {P : TextPlatform}

/-- What keeps a key of what it is made from has its keys in the same order. -/
theorem map_filterMap_sublist {α β γ : Type} {f : α → Option β} {key : α → γ} {key' : β → γ}
    (h : ∀ a b, f a = some b → key' b = key a) (l : List α) :
    ((l.filterMap f).map key').Sublist (l.map key) := by
  induction l with
  | nil => exact .slnil
  | cons a l ih =>
    rw [List.filterMap_cons]
    split
    · exact ih.cons _
    · next b hb =>
      rw [List.map_cons, List.map_cons, h a b hb]
      exact ih.cons_cons _

/-! ## Counts -/

theorem countPriority_eq (priority : FieldPriority) (gaps : List ContentGap) :
    countPriority priority gaps = gaps.countP fun g => g.priority = priority.asStr := by
  rw [countPriority, List.countP_eq_length_filter]
  rfl

theorem countPriority_eq_zero_iff (priority : FieldPriority) (gaps : List ContentGap) :
    (countPriority priority gaps == 0) = true ↔ ∀ g ∈ gaps, g.priority ≠ priority.asStr := by
  rw [countPriority_eq, beq_iff_eq, List.countP_eq_zero]
  simp

/-! ## The analysis by keywords -/

/-- A field that is asked for was not detected in any way. -/
theorem mem_computeGaps {standards : List FieldDefinition} {rawPrompt fieldId : String}
    {audience outputType : Option String} {subjectId : Option Int}
    (h : fieldId ∈ (computeGaps P standards rawPrompt audience outputType subjectId).map
      ContentGap.fieldId) :
    alreadyDetected fieldId audience outputType subjectId = false := by
  obtain ⟨g, hg, rfl⟩ := List.mem_map.1 h
  obtain ⟨field, _, hfield⟩ := List.mem_filterMap.1 hg
  split at hfield
  · cases hfield
  · next hopen =>
    split at hfield
    · cases hfield
    · cases hfield
      simpa using hopen

theorem computeGaps_sublist (standards : List FieldDefinition) (rawPrompt : String)
    (audience outputType : Option String) (subjectId : Option Int) :
    ((computeGaps P standards rawPrompt audience outputType subjectId).map
      ContentGap.fieldId).Sublist (standards.map FieldDefinition.fieldId) := by
  apply map_filterMap_sublist
  intro field g hg
  split at hg
  · cases hg
  · split at hg <;> cases hg
    rfl

/-- The analysis by keywords asks for nothing that it has detected. -/
theorem preflight_asksOnce {generationId : Uuid} {input : PreflightInput}
    {r : ClarificationResponse} (h : preflight P generationId input = some r) : AsksOnce r := by
  obtain ⟨topic, _, hr⟩ := Option.bind_eq_some_iff.1 h
  cases hr
  refine ⟨?_, ?_, ?_, countPriority_eq .required _, countPriority_eq .recommended _,
    countPriority_eq_zero_iff .required _⟩
  · intro a ha _ hmem
    have hnone := mem_computeGaps hmem
    rw [alreadyDetected, if_pos rfl] at hnone
    dsimp only at ha
    rw [ha] at hnone
    cases hnone
  · intro o ho _ hmem
    have hnone := mem_computeGaps hmem
    rw [alreadyDetected, if_neg (by decide), if_pos rfl] at hnone
    dsimp only at ho
    rw [ho] at hnone
    cases hnone
  · exact (clarificationFields_nodup _).sublist (computeGaps_sublist _ _ _ _ _)

/-! ## The analysis of an interpretation -/

section Requirements

variable {fields : List MinimumRequirementField} {priority rawPrompt : String} {interpreted : Json}

/-- The fields that are asked for are those that are neither interpreted nor
detected. -/
theorem openRequirements_fieldId_iff (fieldId : String) :
    fieldId ∈ (openRequirements P fields priority interpreted rawPrompt).map ContentGap.fieldId ↔
      fieldId ∈ fields.map MinimumRequirementField.fieldId ∧
        isFieldPresentInJson (interpreted.get fieldId) = false ∧
        detectFieldValueFromPrompt P fieldId rawPrompt = none := by
  constructor
  · intro h
    obtain ⟨g, hg, rfl⟩ := List.mem_map.1 h
    obtain ⟨field, hmem, hfield⟩ := List.mem_filterMap.1 hg
    split at hfield
    · cases hfield
    · next hpresent =>
      split at hfield
      · cases hfield
      · next hdetected =>
        cases hfield
        exact ⟨List.mem_map_of_mem hmem, by simpa using hpresent, by simpa using hdetected⟩
  · rintro ⟨hmem, hpresent, hdetected⟩
    obtain ⟨field, hfield, rfl⟩ := List.mem_map.1 hmem
    let gap : ContentGap := {
      fieldId := field.fieldId
      question := buildQuestionFromRequirement field
      priority
      inputType := field.inputType
      suggestions := field.suggestions }
    have hgap : gap ∈ openRequirements P fields priority interpreted rawPrompt := by
      apply List.mem_filterMap.2
      refine ⟨field, hfield, ?_⟩
      rw [if_neg (by simp [hpresent]), if_neg (by simp [hdetected])]
    exact List.mem_map.2 ⟨gap, hgap, rfl⟩

theorem openRequirements_sublist :
    ((openRequirements P fields priority interpreted rawPrompt).map ContentGap.fieldId).Sublist
      (fields.map MinimumRequirementField.fieldId) := by
  apply map_filterMap_sublist
  intro field g hg
  split at hg
  · cases hg
  · split at hg <;> cases hg
    rfl

/-- The limit of five cuts off nothing. -/
theorem computeGapsFromInterpretation_eq (contentType : ContentType) :
    computeGapsFromInterpretation P (getMinimumRequirements contentType).requiredFields
        (getMinimumRequirements contentType).recommendedFields interpreted rawPrompt =
      openRequirements P (getMinimumRequirements contentType).requiredFields "required"
          interpreted rawPrompt ++
        openRequirements P (getMinimumRequirements contentType).recommendedFields "recommended"
          interpreted rawPrompt := by
  have hlength := minimumRequirements_length_le contentType
  have hgaps : (openRequirements P (getMinimumRequirements contentType).requiredFields "required"
      interpreted rawPrompt).length ≤
      (getMinimumRequirements contentType).requiredFields.length := List.length_filterMap_le _ _
  rw [computeGapsFromInterpretation]
  congr 2
  exact List.take_of_length_le (by omega)

end Requirements

/-- The audience and the output type that an interpretation gives are told apart
from missing ones: what is taken as detected is not blank or `auto`, unless the
prompt itself names the field. -/
structure Unambiguous (P : TextPlatform) (input : PreflightWithInterpretationInput) : Prop where
  /-- An interpreted audience that is not empty is not blank or `auto` either. -/
  audience : ∀ s, input.interpretedFields.get "target_audience" = some (.str s) → s ≠ "" →
    Text.trim s = "" ∨ Text.trim s = "auto" → detectTargetAudience P input.rawPrompt ≠ none
  /-- Where the output type would be asked for, no type is preferred and the
  interpreted one is empty or `auto` as it stands. -/
  outputType : (interpretedContentType P input).1 ≠ .rpp →
    isFieldPresentInJson (input.interpretedFields.get "output_type") = false →
    detectOutputType P input.rawPrompt = none →
    (∀ s, input.preferredOutputType = some s → s = "" ∨ s = "auto") ∧
      ∀ s, input.interpretedFields.get "output_type" = some (.str s) → s = "" ∨ s = "auto"

section Interpretation

variable {generationId : Uuid} {input : PreflightWithInterpretationInput}
  {r : ClarificationResponse}

/-- The audience that is reported. -/
def reportedAudience (P : TextPlatform) (input : PreflightWithInterpretationInput) :
    Option String :=
  ((input.interpretedFields.get "target_audience").bind Json.asStr).or
    (detectTargetAudience P input.rawPrompt)

/-- The output type that is reported. -/
def reportedOutputType (P : TextPlatform) (input : PreflightWithInterpretationInput) :
    Option String :=
  (input.preferredOutputType.filter namesOutputType).or
    ((((input.interpretedFields.get "output_type").bind Json.asStr).filter namesOutputType).or
      (detectOutputType P input.rawPrompt))

/-- The fields of the tables that are asked for. -/
theorem gap_iff (contentType : ContentType) (fieldId : String) :
    fieldId ∈ (computeGapsFromInterpretation P (getMinimumRequirements contentType).requiredFields
        (getMinimumRequirements contentType).recommendedFields input.interpretedFields
        input.rawPrompt).map ContentGap.fieldId ↔
      fieldId ∈ ((getMinimumRequirements contentType).requiredFields ++
        (getMinimumRequirements contentType).recommendedFields).map
          MinimumRequirementField.fieldId ∧
      isFieldPresentInJson (input.interpretedFields.get fieldId) = false ∧
      detectFieldValueFromPrompt P fieldId input.rawPrompt = none := by
  rw [computeGapsFromInterpretation_eq, List.map_append, List.mem_append,
    openRequirements_fieldId_iff, openRequirements_fieldId_iff, List.map_append, List.mem_append]
  tauto

/-- Whether the audience is asked for depends on the interpretation and the
prompt only. -/
theorem audience_gap_iff (contentType : ContentType) :
    "target_audience" ∈ (computeGapsFromInterpretation P
        (getMinimumRequirements contentType).requiredFields
        (getMinimumRequirements contentType).recommendedFields input.interpretedFields
        input.rawPrompt).map ContentGap.fieldId ↔
      isFieldPresentInJson (input.interpretedFields.get "target_audience") = false ∧
      detectTargetAudience P input.rawPrompt = none := by
  have hmem := audience_mem_required contentType
  rw [gap_iff, List.map_append, List.mem_append]
  constructor
  · exact fun h => h.2
  · exact fun h => ⟨.inl hmem, h⟩

theorem outputType_gap_iff (contentType : ContentType) :
    "output_type" ∈ (computeGapsFromInterpretation P
        (getMinimumRequirements contentType).requiredFields
        (getMinimumRequirements contentType).recommendedFields input.interpretedFields
        input.rawPrompt).map ContentGap.fieldId ↔
      contentType ≠ .rpp ∧
      isFieldPresentInJson (input.interpretedFields.get "output_type") = false ∧
      detectOutputType P input.rawPrompt = none := by
  rw [gap_iff, outputType_mem_iff]
  rfl

theorem asStr_eq_some {v : Option Json} {s : String} (h : v.bind Json.asStr = some s) :
    v = some (.str s) := by
  obtain ⟨w, rfl, hw⟩ := Option.bind_eq_some_iff.1 h
  cases w <;> cases hw
  rfl

theorem isFieldPresentInJson_str {s : String} :
    isFieldPresentInJson (some (.str s)) = false ↔ Text.trim s = "" ∨ Text.trim s = "auto" := by
  simp [isFieldPresentInJson]
  tauto

theorem namesOutputType_eq_false {s : String} :
    namesOutputType s = false ↔ s = "" ∨ s = "auto" := by
  simp [namesOutputType]
  tauto

/-- A reported audience is not asked for exactly when an interpreted one is not
blank. -/
theorem audience_reported_iff (P : TextPlatform) (input : PreflightWithInterpretationInput) :
    (∀ a, reportedAudience P input = some a → a ≠ "" →
      ¬ (isFieldPresentInJson (input.interpretedFields.get "target_audience") = false ∧
        detectTargetAudience P input.rawPrompt = none)) ↔
    ∀ s, input.interpretedFields.get "target_audience" = some (.str s) → s ≠ "" →
      Text.trim s = "" ∨ Text.trim s = "auto" → detectTargetAudience P input.rawPrompt ≠ none := by
  constructor
  · intro h s hs hne hblank hnone
    have hreported : reportedAudience P input = some s := by
      rw [reportedAudience, hs]
      rfl
    exact h s hreported hne ⟨by rw [hs, isFieldPresentInJson_str]; exact hblank, hnone⟩
  · rintro h a hreported hne ⟨hpresent, hnone⟩
    rw [reportedAudience, hnone, Option.or_none] at hreported
    have hs := asStr_eq_some hreported
    rw [hs, isFieldPresentInJson_str] at hpresent
    exact h a hs hne hpresent hnone

/-- A reported output type is not asked for exactly when neither the preferred
nor the interpreted one names a type where it would be asked for. -/
theorem outputType_reported_iff (P : TextPlatform) (input : PreflightWithInterpretationInput)
    (contentType : ContentType) :
    (∀ o, reportedOutputType P input = some o → o ≠ "" →
      ¬ (contentType ≠ .rpp ∧
        isFieldPresentInJson (input.interpretedFields.get "output_type") = false ∧
        detectOutputType P input.rawPrompt = none)) ↔
    (contentType ≠ .rpp →
      isFieldPresentInJson (input.interpretedFields.get "output_type") = false →
      detectOutputType P input.rawPrompt = none →
      (∀ s, input.preferredOutputType = some s → s = "" ∨ s = "auto") ∧
        ∀ s, input.interpretedFields.get "output_type" = some (.str s) → s = "" ∨ s = "auto") := by
  constructor
  · intro h htype hpresent hnone
    have hreported : ∀ o, reportedOutputType P input = some o → namesOutputType o = false := by
      intro o ho
      by_contra hnames
      have hne : o ≠ "" := by
        rintro rfl
        exact hnames rfl
      exact h o ho hne ⟨htype, hpresent, hnone⟩
    have hpreferred : input.preferredOutputType.filter namesOutputType = none := by
      rw [Option.filter_eq_none_iff]
      intro s hs hnames
      have hfalse := hreported s (by
        rw [reportedOutputType, hs, Option.filter_some, if_pos hnames]
        rfl)
      rw [hnames] at hfalse
      cases hfalse
    constructor
    · intro s hs
      rw [← namesOutputType_eq_false]
      simpa [hs, Option.filter_eq_none_iff] using hpreferred
    · intro s hs
      rw [← namesOutputType_eq_false]
      by_contra hnames
      rw [Bool.not_eq_false] at hnames
      have hfalse := hreported s (by
        rw [reportedOutputType, hpreferred, hs]
        simp [Json.asStr, hnames])
      rw [hnames] at hfalse
      cases hfalse
  · rintro h o hreported _ ⟨htype, hpresent, hnone⟩
    obtain ⟨hpreferred, hinterpreted⟩ := h htype hpresent hnone
    have hfirst : input.preferredOutputType.filter namesOutputType = none := by
      rw [Option.filter_eq_none_iff]
      intro s hs hnames
      rw [namesOutputType_eq_false.2 (hpreferred s hs)] at hnames
      cases hnames
    have hsecond : ((input.interpretedFields.get "output_type").bind Json.asStr).filter
        namesOutputType = none := by
      rw [Option.filter_eq_none_iff]
      intro s hs hnames
      rw [namesOutputType_eq_false.2 (hinterpreted s (asStr_eq_some hs))] at hnames
      cases hnames
    rw [reportedOutputType, hfirst, hsecond, hnone] at hreported
    cases hreported

/-- What the analysis of an interpretation returns. -/
theorem preflightWithInterpretation_spec
    (h : preflightWithInterpretation P generationId input = some r) :
    r.detected.audience = reportedAudience P input ∧
      r.detected.outputType = reportedOutputType P input ∧
      r.gaps = computeGapsFromInterpretation P
        (getMinimumRequirements (interpretedContentType P input).1).requiredFields
        (getMinimumRequirements (interpretedContentType P input).1).recommendedFields
        input.interpretedFields input.rawPrompt ∧
      r.totalRequiredGaps = countPriority .required r.gaps ∧
      r.totalRecommendedGaps = countPriority .recommended r.gaps ∧
      r.isReady = (countPriority .required r.gaps == 0) := by
  unfold preflightWithInterpretation at h
  dsimp only at h
  split at h
  · cases h
    exact ⟨rfl, rfl, rfl, rfl, rfl, rfl⟩
  · obtain ⟨topic, _, hr⟩ := Option.bind_eq_some_iff.1 h
    cases hr
    exact ⟨rfl, rfl, rfl, rfl, rfl, rfl⟩

/-- The analysis of an interpretation asks once for what is missing exactly when
the interpretation is unambiguous. -/
theorem preflightWithInterpretation_asksOnce_iff
    (h : preflightWithInterpretation P generationId input = some r) :
    AsksOnce r ↔ Unambiguous P input := by
  obtain ⟨hreportsAudience, hreportsOutput, hgaps, hrequired, hrecommended, hready⟩ :=
    preflightWithInterpretation_spec h
  have haudience := audience_reported_iff P input
  have houtput := outputType_reported_iff P input (interpretedContentType P input).1
  rw [← hreportsAudience] at haudience
  rw [← hreportsOutput] at houtput
  constructor
  · intro hasks
    refine ⟨haudience.1 fun a ha hne hgap => ?_, houtput.1 fun o ho hne hgap => ?_⟩
    · apply hasks.audience a ha hne
      rw [hgaps]
      exact (audience_gap_iff _).2 hgap
    · apply hasks.outputType o ho hne
      rw [hgaps]
      exact (outputType_gap_iff _).2 hgap
  · intro hunambiguous
    refine ⟨?_, ?_, ?_, ?_, ?_, ?_⟩
    · intro a ha hne hgap
      rw [hgaps] at hgap
      exact haudience.2 hunambiguous.audience a ha hne ((audience_gap_iff _).1 hgap)
    · intro o ho hne hgap
      rw [hgaps] at hgap
      exact houtput.2 hunambiguous.outputType o ho hne ((outputType_gap_iff _).1 hgap)
    · rw [hgaps, computeGapsFromInterpretation_eq, List.map_append]
      have hnodup := minimumRequirements_nodup (interpretedContentType P input).1
      rw [List.map_append] at hnodup
      exact hnodup.sublist (openRequirements_sublist.append openRequirements_sublist)
    · rw [hrequired, countPriority_eq]
      rfl
    · rw [hrecommended, countPriority_eq]
      rfl
    · rw [hready]
      exact countPriority_eq_zero_iff .required _

end Interpretation

/-- Both analyses ask once, the second one for an unambiguous interpretation. -/
theorem analyses_askOnce (P : TextPlatform) (generationId : Uuid) :
    (∀ input r, preflight P generationId input = some r → AsksOnce r) ∧
      ∀ input r, preflightWithInterpretation P generationId input = some r →
        (AsksOnce r ↔ Unambiguous P input) :=
  ⟨fun _ _ => preflight_asksOnce, fun _ _ => preflightWithInterpretation_asksOnce_iff⟩

/-- The ASCII platform, for texts in which no pattern matches. -/
def asciiTexts : TextPlatform :=
  { asciiPlatform with
    regexIsMatch := fun _ _ => false
    regexCapture := fun _ _ => none }

/-- An interpretation without an output type. -/
def sampleAnalysis (preferredOutputType : String) : PreflightWithInterpretationInput where
  rawPrompt := "Buatkan materi tentang pecahan untuk kelas 5"
  interpretedFields := .obj [("target_audience", "SD Kelas 5")]
  preferredOutputType := some preferredOutputType

theorem analyses_askOnce_sample :
    (∃ r, preflight asciiTexts ⟨1⟩ { rawPrompt := "Buatkan materi tentang pecahan" } = some r ∧
      AsksOnce r) ∧
    ∃ r, preflightWithInterpretation asciiTexts ⟨1⟩ (sampleAnalysis "auto") = some r ∧
      AsksOnce r := by
  constructor
  · have hreturns : (preflight asciiTexts ⟨1⟩
        { rawPrompt := "Buatkan materi tentang pecahan" }).isSome := by
      decide +kernel
    obtain ⟨r, hr⟩ := Option.isSome_iff_exists.1 hreturns
    exact ⟨r, hr, (analyses_askOnce asciiTexts ⟨1⟩).1 _ r hr⟩
  · have hreturns : (preflightWithInterpretation asciiTexts ⟨1⟩ (sampleAnalysis "auto")).isSome := by
      decide +kernel
    obtain ⟨r, hr⟩ := Option.isSome_iff_exists.1 hreturns
    refine ⟨r, hr, ((analyses_askOnce asciiTexts ⟨1⟩).2 _ r hr).2 ⟨?_, ?_⟩⟩
    · intro _ _ _ _
      decide +kernel
    · intro _ _ _
      constructor
      · intro s hs
        cases hs
        exact .inr rfl
      · intro s hs
        cases hs

/-- The preferred output type is reported and asked for. -/
theorem preferredType_asked_for : ∃ r,
    preflightWithInterpretation asciiTexts ⟨1⟩ (sampleAnalysis "pdf") = some r ∧
      r.detected.outputType = some "pdf" ∧ ¬ AsksOnce r := by
  have hreturns : (preflightWithInterpretation asciiTexts ⟨1⟩ (sampleAnalysis "pdf")).map
      (fun r => r.detected.outputType) = some (some "pdf") := by
    decide +kernel
  obtain ⟨r, hr, houtput⟩ := Option.map_eq_some_iff.1 hreturns
  refine ⟨r, hr, houtput, fun hasks => ?_⟩
  have hpreferred := ((preflightWithInterpretation_asksOnce_iff hr).1 hasks).outputType
    (by decide +kernel) (by decide +kernel) (by decide +kernel)
  have hauto := hpreferred.1 "pdf" rfl
  revert hauto
  decide

end KlassGateway.Llm
