import KlassGateway.Contracts.Bounds
import Mathlib.Data.List.Sort
/-!
# The prompt interpretation contract

Model of the records of `contracts/prompt_interpretation.rs`, schema version
`media_prompt_understanding.v1`: their validation rules, their decoding with the
lenient deserialisers, and their serialisation.  The repair of a completion is
in `Contracts.InterpretationRepair`.

A rule on a nested record counts where the parent dives into it, so the
sections of the blueprint and the optional contexts are not validated.

* `fallback_valid_iff`: the rule-based fallback is valid exactly for the prompts
  that fit into a blueprint title.
-/

namespace KlassGateway.Contracts

open Lib Lib.Json

/-- An `f64`: a JSON number has a finite value, a parsed text may have none. -/
inductive F64 where
  | finite (q : Rat)
  | infinite (negative : Bool)
  | nan
  deriving DecidableEq

/-- What the contracts take from other crates besides `Platform`. -/
structure ContractPlatform extends Platform where
  /-- `str::parse::<f64>`. -/
  parseF64 : String → Option F64
  /-- The first group of the first match of a regular expression in a text. -/
  regexCapture : (pattern text : String) → Option String

namespace F64

/-- `serde_json::to_value`: a number that is not finite becomes `null`. -/
def toJson : F64 → Json
  | finite q => .num (.float q)
  | _ => .null

/-- `partial_cmp` with numbers that cannot be compared counted as equal: `a` does
not come after `b` when the larger number comes first. -/
def atLeast : F64 → F64 → Bool
  | finite a, finite b => b ≤ a
  | _, _ => true

end F64

namespace PromptInterpretation

/-- `SCHEMA_VERSION`. -/
def schemaVersion : String := "media_prompt_understanding.v1"

theorem nonEmpty_schemaVersion : NonEmpty schemaVersion := by decide

/-! ## Lenient deserialisers -/

section Lenient

variable (P : ContractPlatform)

/-- `deserialize_optional_i32`; `as i32` wraps around. -/
def optionalI32 : Json → Option Int
  | .num (.int n) =>
    if -(2 ^ 63) ≤ n ∧ n < 2 ^ 63 then some (Int.bmod n (2 ^ 32)) else none
  | .str s => (Text.parseI64 (Text.trim s)).filter fun n => -(2 ^ 31) ≤ n ∧ n < 2 ^ 31
  | _ => none

/-- `deserialize_f64_lenient`. -/
def lenientF64 : Json → F64
  | .num n => .finite n.toRat
  | .str s => (P.parseF64 (Text.trim s)).getD (.finite (6 / 10))
  | _ => .finite (6 / 10)

/-- `deserialize_bool_lenient`. -/
def lenientBool : Json → Bool
  | .bool b => b
  | .str s => P.toLowercase s == "true"
  | .num n => n.toRat != 0
  | _ => false

/-- The first of some keys that an object has. -/
def firstOf (keys : List String) (fields : List (String × Json)) : Option Json :=
  keys.findSome? fun k => lookup k fields

/-- `deserialize_optional_string_lenient`. -/
def optionalString : Json → Option String
  | .null => none
  | .str s => if Text.trim s = "" then none else some (Text.trim s)
  | .num n => some (P.jsonText (.num n))
  | .bool b => some (if b then "true" else "false")
  | .obj fields => some <|
    ((firstOf ["text", "content", "label", "name", "subject_name", "title", "value"] fields).bind
      asStr).getD (P.jsonText (.obj fields))
  | .arr items => some <|
    let strings := items.filterMap fun
      | .str s => some s
      | .num n => some (P.jsonText (.num n))
      | _ => none
    if strings.isEmpty then P.jsonText (.arr items) else ", ".intercalate strings

/-- `deserialize_optional_f64`. -/
def optionalF64 : Json → Option F64
  | .num n => some (.finite n.toRat)
  | .str s => P.parseF64 (Text.trim s)
  | _ => none

/-- `deserialize_bool_lenient_option`. -/
def optionalBool : Json → Option Bool
  | .bool b => some b
  | .str s => some (P.toLowercase s == "true")
  | .num n => some (n.toRat != 0)
  | _ => none

end Lenient

/-- A required field with a deserialiser that accepts every value. -/
def lenient {α : Type} (key : String) (d : Json → α) : Decoder α := field key fun v => some (d v)

/-- An optional field with `#[serde(default)]` and a deserialiser that accepts every value. -/
def lenientOr {α : Type} (key : String) (d : Json → Option α) : Decoder (Option α) :=
  fieldOr key none fun v => some (d v)

/-- A list of texts that may be missing. -/
def texts (key : String) : Decoder (List String) := fieldOr key [] (list asStr)

/-! ## Records -/

/-- `TeacherIntent`. -/
structure TeacherIntent where
  type : String
  goal : String
  preferredDeliveryMode : String
  requiresClarification : Bool
  deriving DecidableEq

/-- `InterpretationConstraints`. -/
structure InterpretationConstraints where
  preferredOutputType : String := "auto"
  maxDurationMinutes : Option Int := none
  mustInclude : List String := []
  avoid : List String := []
  tone : Option String := none
  deriving DecidableEq

/-- `OutputCandidate`. -/
structure OutputCandidate where
  type : String
  score : F64
  reason : String
  deriving DecidableEq

/-- `BlueprintSection`. -/
structure BlueprintSection where
  title : String
  purpose : String
  bullets : List String
  estimatedLength : String
  deriving DecidableEq

/-- `DocumentBlueprint`. -/
structure DocumentBlueprint where
  title : String
  summary : String
  sections : List BlueprintSection
  deriving DecidableEq

/-- `SubjectContext`. -/
structure SubjectContext where
  subjectName : String
  subjectSlug : Option String := none
  deriving DecidableEq

/-- `SubSubjectContext`. -/
structure SubSubjectContext where
  subSubjectName : String
  subSubjectSlug : Option String := none
  deriving DecidableEq

/-- `TargetAudience`. -/
structure TargetAudience where
  label : String
  level : Option String := none
  ageRange : Option String := none
  deriving DecidableEq

/-- `RequestedMediaCharacteristics`. -/
structure RequestedMediaCharacteristics where
  tone : Option String := none
  formatPreferences : List String := []
  visualDensity : Option String := none
  deriving DecidableEq

/-- `Asset`. -/
structure Asset where
  type : String
  description : String
  required : Bool
  deriving DecidableEq

/-- `AssessmentBlock`. -/
structure AssessmentBlock where
  title : String
  type : String
  instructions : String
  deriving DecidableEq

/-- `Confidence`. -/
structure Confidence where
  score : F64
  label : String
  rationale : Option String := none
  deriving DecidableEq

/-- `ContentIntegrity`. -/
structure ContentIntegrity where
  integrityScore : F64
  violations : List Json := []
  classificationSource : String
  metaRepairs : Option Json := none

/-- `PlanMode`. -/
structure PlanMode where
  active : Bool := false
  reason : Option String := none
  detectedContentType : Option String := none
  contentTypeConfidence : Option F64 := none
  deriving DecidableEq

/-- `InterpretedFields`. -/
structure InterpretedFields where
  targetAudience : Option String := none
  outputType : Option String := none
  subject : Option String := none
  topic : Option String := none
  learningObjectives : Option (List String) := none
  pageCount : Option String := none
  difficultyLevel : Option String := none
  includeActivities : Option Bool := none
  slideCount : Option String := none
  questionCount : Option Int := none
  meetingDuration : Option String := none
  teachingMethod : Option String := none
  assessmentMethod : Option String := none
  visualDensity : Option String := none
  speakerNotes : Option String := none
  questionType : Option String := none
  deriving DecidableEq

/-- `MissingField`. -/
structure MissingField where
  fieldId : String
  fieldLabel : String
  priority : String
  question : String
  suggestions : List Json := []
  inputType : String

/-- `InterpretationFallback`. -/
structure InterpretationFallback where
  triggered : Bool := false
  reasonCode : Option String := none
  action : Option String := none
  deriving DecidableEq

/-- `InterpretationPayload`. -/
structure InterpretationPayload where
  schemaVersion : String
  teacherPrompt : String
  language : String
  teacherIntent : TeacherIntent
  learningObjectives : List String := []
  constraints : InterpretationConstraints
  outputTypeCandidates : List OutputCandidate
  resolvedOutputTypeReasoning : String
  documentBlueprint : DocumentBlueprint
  subjectContext : Option SubjectContext := none
  subSubjectContext : Option SubSubjectContext := none
  targetAudience : Option TargetAudience := none
  requestedMediaCharacteristics : RequestedMediaCharacteristics := {}
  assets : List Asset := []
  assessmentOrActivityBlocks : List AssessmentBlock := []
  teacherDeliverySummary : String
  confidence : Confidence
  fallback : InterpretationFallback := {}
  contentIntegrity : Option ContentIntegrity := none
  metaRepairs : Option Json := none
  planMode : PlanMode := {}
  interpretedFields : Option InterpretedFields := none
  missingFields : List MissingField := []

/-! ## Validation -/

/-- The rules of `TeacherIntent`. -/
def TeacherIntent.Valid (i : TeacherIntent) : Prop :=
  HasLength 1 100 i.type ∧ HasLength 1 500 i.goal ∧ HasLength 1 100 i.preferredDeliveryMode

instance (i : TeacherIntent) : Decidable i.Valid := inferInstanceAs (Decidable (_ ∧ _))

/-- The rules of `OutputCandidate`. -/
def OutputCandidate.Valid (c : OutputCandidate) : Prop :=
  HasLength 1 100 c.type ∧ HasLength 1 500 c.reason

instance (c : OutputCandidate) : Decidable c.Valid := inferInstanceAs (Decidable (_ ∧ _))

/-- The rules of `DocumentBlueprint`. -/
def DocumentBlueprint.Valid (b : DocumentBlueprint) : Prop :=
  HasLength 1 200 b.title ∧ HasLength 1 1000 b.summary ∧ b.sections ≠ []

instance (b : DocumentBlueprint) : Decidable b.Valid := inferInstanceAs (Decidable (_ ∧ _))

/-- The rules of `Confidence`. -/
def Confidence.Valid (c : Confidence) : Prop := HasLength 1 100 c.label

instance (c : Confidence) : Decidable c.Valid := inferInstanceAs (Decidable (HasLength _ _ _))

/-- The rules of `InterpretationPayload`. -/
def InterpretationPayload.Valid (p : InterpretationPayload) : Prop :=
  NonEmpty p.schemaVersion ∧ HasLength 1 5000 p.teacherPrompt ∧ HasLength 1 32 p.language ∧
    p.teacherIntent.Valid ∧ (∀ c ∈ p.outputTypeCandidates, c.Valid) ∧
    p.outputTypeCandidates ≠ [] ∧ HasLength 1 1000 p.resolvedOutputTypeReasoning ∧
    p.documentBlueprint.Valid ∧ HasLength 1 1000 p.teacherDeliverySummary ∧ p.confidence.Valid

instance (p : InterpretationPayload) : Decidable p.Valid := inferInstanceAs (Decidable (_ ∧ _))

/-! ## The fallback -/

variable (P : Platform)

/-- `detect_language`. -/
def detectLanguage (prompt : String) : String :=
  let lowered := P.toLowercase prompt
  let score (markers : List String) : Nat := (markers.filter fun m => Text.contains lowered m).length
  let idScore := score ["buatkan", "kelas", "siswa", "materi", "untuk", "dan"]
  let enScore := score ["create", "grade", "students", "lesson", "for", "and"]
  if enScore < idScore then "id" else if idScore < enScore then "en" else "und"

/-- The output type that the fallback prefers. -/
def fallbackPreference (teacherPrompt preferredOutputType : String) : String :=
  let preferred := P.toLowercase preferredOutputType
  let prompt := P.toLowercase teacherPrompt
  let mentions (words : List String) : Bool := words.any fun word => Text.contains prompt word
  if preferred = "auto" then
    if mentions ["ppt", "powerpoint", "slide", "presentasi"] then "pptx"
    else if mentions ["word", "docx", "dokumen"] then "docx"
    else "pdf"
  else preferred

/-- A candidate of the fallback. -/
def fallbackCandidate (preferred type reason : String) : OutputCandidate where
  type := type
  score := .finite (if preferred = type then 95 / 100 else 40 / 100)
  reason := reason

/-- The candidates of the fallback, the preferred one first. -/
def fallbackCandidates (teacherPrompt preferredOutputType : String) : List OutputCandidate :=
  let preferred := fallbackPreference P teacherPrompt preferredOutputType
  [fallbackCandidate preferred "pdf" "Default PDF fallback.",
    fallbackCandidate preferred "docx" "Default DOCX fallback.",
    fallbackCandidate preferred "pptx" "Default PPTX fallback."].mergeSort
      fun a b => a.score.atLeast b.score

/-- `fallback`. -/
def fallback (teacherPrompt preferredOutputType : String) : InterpretationPayload :=
  let candidates := fallbackCandidates P teacherPrompt preferredOutputType
  let topType := (candidates.head?.map OutputCandidate.type).getD "pdf"
  { schemaVersion := schemaVersion
    teacherPrompt
    language := detectLanguage P teacherPrompt
    teacherIntent := {
      type := "generate_learning_media"
      goal := truncateStr teacherPrompt 500
      preferredDeliveryMode := "digital_download"
      requiresClarification := false }
    constraints := { preferredOutputType }
    outputTypeCandidates := candidates
    resolvedOutputTypeReasoning := "Fallback honored output type: " ++ topType
    documentBlueprint := {
      title := truncateStr teacherPrompt 200
      summary := truncateStr teacherPrompt 1000
      sections := [
        { title := "Requested Content"
          purpose := "Deliver the requested learning material clearly."
          bullets := [truncateStr teacherPrompt 300]
          estimatedLength := "medium" }] }
    teacherDeliverySummary := truncateStr teacherPrompt 1000
    confidence := { score := .finite (6 / 10), label := "medium" }
    fallback := {
      triggered := true
      reasonCode := some "provider_response_contract_invalid"
      action := some "fallback_from_interpretation" } }

theorem hasLength_detectLanguage (prompt : String) : HasLength 1 32 (detectLanguage P prompt) := by
  unfold detectLanguage
  dsimp only
  split_ifs <;> decide

theorem fallbackCandidate_valid (preferred : String) {type reason : String}
    (htype : HasLength 1 100 type) (hreason : HasLength 1 500 reason) :
    (fallbackCandidate preferred type reason).Valid := ⟨htype, hreason⟩

/-- Every candidate of the fallback is valid, and its type is one of three. -/
theorem mem_fallbackCandidates {teacherPrompt preferredOutputType : String} {c : OutputCandidate}
    (h : c ∈ fallbackCandidates P teacherPrompt preferredOutputType) :
    c.type ∈ ["pdf", "docx", "pptx"] ∧ c.Valid := by
  unfold fallbackCandidates at h
  rw [List.mem_mergeSort] at h
  simp only [List.mem_cons, List.not_mem_nil, or_false] at h
  rcases h with rfl | rfl | rfl
  · exact ⟨by simp [fallbackCandidate], fallbackCandidate_valid _ (by decide) (by decide)⟩
  · exact ⟨by simp [fallbackCandidate], fallbackCandidate_valid _ (by decide) (by decide)⟩
  · exact ⟨by simp [fallbackCandidate], fallbackCandidate_valid _ (by decide) (by decide)⟩

theorem fallbackCandidates_ne_nil (teacherPrompt preferredOutputType : String) :
    fallbackCandidates P teacherPrompt preferredOutputType ≠ [] := by
  have hlength : (fallbackCandidates P teacherPrompt preferredOutputType).length = 3 := by
    unfold fallbackCandidates
    rw [List.length_mergeSort]
    rfl
  intro hnil
  rw [hnil] at hlength
  cases hlength

/-- The reasoning of the fallback names one of the three types. -/
theorem hasLength_fallbackReasoning (teacherPrompt preferredOutputType : String) :
    HasLength 1 1000 ("Fallback honored output type: " ++
      (((fallbackCandidates P teacherPrompt preferredOutputType).head?.map
        OutputCandidate.type).getD "pdf")) := by
  cases hhead : (fallbackCandidates P teacherPrompt preferredOutputType).head? with
  | none => decide
  | some c =>
    have htype := (mem_fallbackCandidates P (List.mem_of_head? hhead)).1
    simp only [List.mem_cons, List.not_mem_nil, or_false] at htype
    rw [Option.map_some, Option.getD_some]
    rcases htype with h | h | h
    · rw [h]
      decide
    · rw [h]
      decide
    · rw [h]
      decide

/-- The rule-based fallback is valid exactly for the prompts within their own
bound that fit into a title. -/
theorem fallback_valid_iff {teacherPrompt preferredOutputType : String} :
    (fallback P teacherPrompt preferredOutputType).Valid ↔
      HasLength 1 5000 teacherPrompt ∧ Fits 200 teacherPrompt := by
  have hintent : HasLength 1 100 "generate_learning_media" ∧ HasLength 1 100 "digital_download" := by
    decide
  have hlabel : HasLength 1 100 "medium" := by decide
  have hcandidates : ∀ c ∈ fallbackCandidates P teacherPrompt preferredOutputType, c.Valid :=
    fun c hc => (mem_fallbackCandidates P hc).2
  simp only [InterpretationPayload.Valid, TeacherIntent.Valid, DocumentBlueprint.Valid,
    Confidence.Valid, fallback, hasLength_truncateStr, hasLength_detectLanguage,
    hasLength_fallbackReasoning, fallbackCandidates_ne_nil, nonEmpty_schemaVersion, hintent.1,
    hintent.2, hlabel, true_and, and_true, ne_eq, not_false_iff, List.cons_ne_nil]
  constructor
  · rintro ⟨hprompt, _, _, ⟨htitle, _⟩, _⟩
    exact ⟨hprompt, htitle⟩
  · rintro ⟨hprompt, htitle⟩
    have hsummary : Fits 1000 teacherPrompt := htitle.mono (by omega)
    exact ⟨hprompt, htitle.mono (by omega), hcandidates, ⟨htitle, hsummary⟩, hsummary⟩

end PromptInterpretation

end KlassGateway.Contracts
