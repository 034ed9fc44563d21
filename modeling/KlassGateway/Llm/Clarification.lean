import KlassGateway.Standards.Detection
import KlassGateway.Lib.Search
import KlassGateway.Lib.Words
/-!
# Clarification of prompts

Model of `llm/clarification.rs`: the two analyses of a prompt, the questions
that they leave open, and the prompt that is enriched with the answers.

`extractTopic` slices the prompt at a byte offset that it found in the
lower-cased prompt.  It is `none` where that is a panic, and so is an analysis
that calls it.
-/

namespace KlassGateway.Llm

open Lib Standards

/-- `DetectedInfo`. -/
structure DetectedInfo where
  outputType : Option String
  subject : Option String
  subjectId : Option Int
  audience : Option String
  topic : Option String
  contentType : String
  confidence : Rat

/-- `ClarificationResponse`. -/
structure ClarificationResponse where
  generationId : String
  detected : DetectedInfo
  gaps : List ContentGap
  suggestedPrompt : String
  isReady : Bool
  totalRequiredGaps : Nat
  totalRecommendedGaps : Nat

/-- `PreflightInput`. -/
structure PreflightInput where
  rawPrompt : String
  preferredOutputType : Option String := none
  subjectId : Option Int := none
  subSubjectId : Option Int := none

/-- `PreflightWithInterpretationInput`. -/
structure PreflightWithInterpretationInput where
  rawPrompt : String
  detectedContentType : Option String := none
  interpretedFields : Json
  confidenceScore : Option Rat := none
  llmRequiresClarification : Option Bool := none
  preferredOutputType : Option String := none
  subjectId : Option Int := none
  subSubjectId : Option Int := none

/-- The answers of the teacher by field. -/
abbrev Answers := String → Option String

variable (P : TextPlatform)

/-! ## Topics -/

/-- The end of a topic. -/
def endsTopic (c : Char) : Bool := c = '.' || c = ',' || c = '!' || c = '?'

/-- The words that a topic follows. -/
def topicMarkers : List String := ["tentang ", "about ", "materi ", "topik ", "topic "]

/-- The text up to the next punctuation, trimmed. -/
def topicOf (rest : List Char) : List Char :=
  Text.trimList (rest.takeWhile fun c => !endsTopic c)

/-- The loop of `extract_topic`. -/
def extractTopicFrom (prompt lower : String) : List String → Option (Option String)
  | [] => some none
  | marker :: markers =>
    match Text.find lower marker with
    | none => extractTopicFrom prompt lower markers
    | some pos => do
      let rest ← Text.dropBytes prompt (pos + marker.utf8ByteSize)
      let topic := String.ofList (topicOf rest.toList)
      if topic ≠ "" ∧ 2 < topic.utf8ByteSize then some (some topic)
      else extractTopicFrom prompt lower markers

/-- `extract_topic`. -/
def extractTopic (prompt : String) : Option (Option String) :=
  extractTopicFrom prompt (P.toLowercase prompt) topicMarkers

/-! ## Gaps -/

/-- `is_field_present_in_json`. -/
def isFieldPresentInJson : Option Json → Bool
  | none | some .null => false
  | some (.str s) => Text.trim s ≠ "" && Text.trim s ≠ "auto"
  | some (.arr items) => !items.isEmpty
  | some (.obj fields) => !fields.isEmpty
  | some (.bool _) | some (.num _) => true

/-- The question for a field, with the wording of the audience and the output
type. -/
def questionFor (fieldId audience outputType other : String) : String :=
  if fieldId = "target_audience" then audience
  else if fieldId = "output_type" then outputType
  else if fieldId = "learning_objectives" then "Apa tujuan pembelajaran dari konten ini?"
  else if fieldId = "page_count" then "Berapa jumlah halaman yang diinginkan?"
  else if fieldId = "slide_count" then "Berapa jumlah slide yang diinginkan?"
  else if fieldId = "include_activities" then "Apakah perlu disertakan latihan/soal?"
  else if fieldId = "meeting_duration" then "Berapa lama durasi pertemuan?"
  else if fieldId = "teaching_method" then "Metode pembelajaran apa yang digunakan?"
  else if fieldId = "assessment_method" then "Bagaimana cara penilaian siswa?"
  else if fieldId = "difficulty_level" then "Tingkat kesulitan materi ini?"
  else if fieldId = "question_count" then "Berapa jumlah soal yang diinginkan?"
  else if fieldId = "visual_density" then "Bagaimana tampilan slide yang diinginkan?"
  else if fieldId = "speaker_notes" then "Apakah perlu disertakan catatan presenter?"
  else other

/-- `build_question`. -/
def buildQuestion (field : FieldDefinition) : String :=
  questionFor field.fieldId "Untuk jenjang/kelas berapa?" "Format file apa yang Anda inginkan?"
    ("Informasi tambahan untuk " ++ field.labelId ++ "?")

/-- `build_question_from_requirement`, which also has a question for the type of
questions. -/
def buildQuestionFromRequirement (field : MinimumRequirementField) : String :=
  questionFor field.fieldId "Untuk jenjang/kelas berapa materi ini ditujukan?"
    "Format file apa yang Anda inginkan? (PDF, Word, PowerPoint)"
    (if field.fieldId = "question_type" then "Jenis soal apa yang diinginkan?"
      else "Informasi tambahan untuk " ++ field.fieldLabel ++ "?")

/-- Whether `compute_gaps` skips a field that was detected before. -/
def alreadyDetected (fieldId : String) (detectedAudience detectedOutputType : Option String)
    (subjectId : Option Int) : Bool :=
  if fieldId = "target_audience" then detectedAudience.isSome
  else if fieldId = "output_type" then detectedOutputType.isSome
  else if fieldId = "subject" then subjectId.isSome
  else false

/-- `compute_gaps`. -/
def computeGaps (standards : List FieldDefinition) (rawPrompt : String)
    (detectedAudience detectedOutputType : Option String) (subjectId : Option Int) :
    List ContentGap :=
  standards.filterMap fun field =>
    if alreadyDetected field.fieldId detectedAudience detectedOutputType subjectId then none
    else if (detectFieldValueFromPrompt P field.fieldId rawPrompt).isSome then none
    else some {
      fieldId := field.fieldId
      question := buildQuestion field
      priority := field.priority.asStr
      inputType := field.inputType.asStr
      suggestions := field.suggestions }

/-- The fields that are neither interpreted nor detected in the prompt. -/
def openRequirements (fields : List MinimumRequirementField) (priority : String)
    (interpreted : Json) (rawPrompt : String) : List ContentGap :=
  fields.filterMap fun field =>
    if isFieldPresentInJson (interpreted.get field.fieldId) then none
    else if (detectFieldValueFromPrompt P field.fieldId rawPrompt).isSome then none
    else some {
      fieldId := field.fieldId
      question := buildQuestionFromRequirement field
      priority
      inputType := field.inputType
      suggestions := field.suggestions }

/-- `compute_gaps_from_interpretation`. -/
def computeGapsFromInterpretation
    (requiredFields recommendedFields : List MinimumRequirementField) (interpreted : Json)
    (rawPrompt : String) : List ContentGap :=
  let gaps := openRequirements P requiredFields "required" interpreted rawPrompt
  let recommendedLimit := 5 - gaps.length
  gaps ++ openRequirements P (recommendedFields.take recommendedLimit) "recommended" interpreted
    rawPrompt

/-! ## The suggested prompt -/

/-- The words of which one mentions an output type. -/
def formatMention (output : String) : List String :=
  let lowered := P.toLowercase output
  if lowered = "pptx" then ["ppt", "pptx", "powerpoint", "slide", "presentasi", "slideshow"]
  else if lowered = "pdf" then ["pdf"]
  else if lowered = "docx" then ["docx", "doc", "word", "dokumen"]
  else []

/-- Underscores as blanks. -/
def spaced (s : String) : String := s.map fun c => if c = '_' then ' ' else c

/-- `split_whitespace` of a text. -/
def tokens (s : String) : List String :=
  (Text.wordsList Text.isWhitespace s.toList).map String.ofList

/-- A capital first, and a full stop last if there is no other. -/
def punctuated (s : String) : String :=
  match s.toList with
  | [] => ""
  | first :: rest =>
    let output := P.toUppercase (String.singleton first) ++ String.ofList rest
    if output.toList.getLast? ∈ [some '.', some '?', some '!'] then output else output ++ "."

/-- `build_suggested_prompt`. -/
def buildSuggestedPrompt (rawPrompt : String) (audience outputType : Option String) : String :=
  let raw := Text.trim rawPrompt
  let lower := P.toLowercase raw
  let audienceText := match audience with
    | some audience =>
      if (tokens (P.toLowercase (spaced audience))).all (Text.contains lower) then ""
      else " untuk " ++ audience
    | none => ""
  let outputText := match outputType with
    | some output =>
      if (formatMention P output).any (Text.contains lower) then ""
      else " dalam format " ++ P.toUppercase output
    | none => ""
  punctuated P (raw ++ audienceText ++ outputText)

/-! ## The two analyses -/

/-- How many gaps have a priority. -/
def countPriority (priority : FieldPriority) (gaps : List ContentGap) : Nat :=
  (gaps.filter fun g => g.priority == priority.asStr).length

/-- A text that names an output type. -/
def namesOutputType (s : String) : Bool := s ≠ "" && s ≠ "auto"

/-- `ClarificationService::preflight`. -/
def preflight (generationId : Uuid) (input : PreflightInput) : Option ClarificationResponse := do
  let (contentType, confidence) := detectContentType P input.rawPrompt
  let detectedAudience := detectTargetAudience P input.rawPrompt
  let detectedOutputType :=
    (input.preferredOutputType.filter namesOutputType).or (detectOutputType P input.rawPrompt)
  let gaps := computeGaps P (getClarificationFields contentType) input.rawPrompt detectedAudience
    detectedOutputType input.subjectId
  let topic ← extractTopic P input.rawPrompt
  return {
    generationId := generationId.toText
    detected := {
      outputType := detectedOutputType
      subject := none
      subjectId := input.subjectId
      audience := detectedAudience
      topic
      contentType := contentType.asStr
      confidence }
    gaps
    suggestedPrompt :=
      buildSuggestedPrompt P input.rawPrompt detectedAudience detectedOutputType
    isReady := countPriority .required gaps == 0
    totalRequiredGaps := countPriority .required gaps
    totalRecommendedGaps := countPriority .recommended gaps }

/-- The content type of an interpretation, with its confidence. -/
def interpretedContentType (input : PreflightWithInterpretationInput) : ContentType × Rat :=
  match input.detectedContentType with
  | some ct =>
    let contentType :=
      if ct = "materi_pembelajaran" then .materiPembelajaran
      else if ct = "slide_presentasi" then .slidePresentasi
      else if ct = "rpp" then .rpp
      else if ct = "lembar_kerja" then .lembarKerja
      else if ct = "silabus" then .silabus
      else if ct = "penilaian" then .penilaian
      else (detectContentType P input.rawPrompt).1
    (contentType, input.confidenceScore.getD (6 / 10))
  | none => detectContentType P input.rawPrompt

/-- `ClarificationService::preflight_with_interpretation`. -/
def preflightWithInterpretation (generationId : Uuid)
    (input : PreflightWithInterpretationInput) : Option ClarificationResponse := do
  let (contentType, confidence) := interpretedContentType P input
  let requirements := getMinimumRequirements contentType
  let interpreted := input.interpretedFields
  let gaps := computeGapsFromInterpretation P requirements.requiredFields
    requirements.recommendedFields interpreted input.rawPrompt
  let text (key : String) : Option String := (interpreted.get key).bind Json.asStr
  let detectedAudience := (text "target_audience").or (detectTargetAudience P input.rawPrompt)
  let detectedOutputType := (input.preferredOutputType.filter namesOutputType).or
    (((text "output_type").filter namesOutputType).or (detectOutputType P input.rawPrompt))
  let topic ← match text "topic" with
    | some topic => some (some topic)
    | none => extractTopic P input.rawPrompt
  return {
    generationId := generationId.toText
    detected := {
      outputType := detectedOutputType
      subject := none
      subjectId := input.subjectId
      audience := detectedAudience
      topic
      contentType := contentType.asStr
      confidence }
    gaps
    suggestedPrompt :=
      buildSuggestedPrompt P input.rawPrompt detectedAudience detectedOutputType
    isReady := countPriority .required gaps == 0
    totalRequiredGaps := countPriority .required gaps
    totalRecommendedGaps := countPriority .recommended gaps }

end KlassGateway.Llm
