import KlassGateway.Contracts.InterpretationCodec
/-!
# Plan mode

Model of `regenerate_plan_mode_from_interpretation`: the plan mode, the
interpreted fields and the missing fields of an interpretation, derived again
from its content.  The service calls it on an interpretation that it has read
from the cache.
-/

namespace KlassGateway.Contracts.PromptInterpretation

open Lib Lib.Json

variable (P : Platform)

/-- `content_type_keywords`. -/
def contentTypeKeywords (contentType : String) : List String :=
  if contentType = "slide_presentasi" then
    ["slide", "presentasi", "powerpoint", "pptx", "tayangan"]
  else if contentType = "rpp" then
    ["rpp", "rencana pelaksanaan", "lesson plan", "perencanaan pembelajaran"]
  else if contentType = "lembar_kerja" then ["lembar kerja", "worksheet", "latihan", "praktik"]
  else if contentType = "penilaian" then
    ["penilaian", "asesmen", "assessment", "soal", "ujian", "tes"]
  else if contentType = "silabus" then ["silabus", "syllabus", "kurikulum"]
  else if contentType = "materi_pembelajaran" then
    ["materi", "modul", "handout", "bahan ajar", "pelajaran", "belajar"]
  else []

/-- The content types in the order in which they are scored. -/
def contentTypes : List String :=
  ["slide_presentasi", "rpp", "lembar_kerja", "penilaian", "silabus", "materi_pembelajaran"]

/-- `detect_content_type_from_payload`. -/
def detectContentTypeFromPayload (p : InterpretationPayload) : String :=
  let text := P.toLowercase p.teacherPrompt ++ " " ++ P.toLowercase p.documentBlueprint.title ++
    " " ++ P.toLowercase p.documentBlueprint.summary
  let scores : List (String × Nat) := contentTypes.map fun contentType =>
    (contentType, ((contentTypeKeywords contentType).filter fun kw => Text.contains text kw).length)
  match scores.mergeSort fun a b => b.2 ≤ a.2 with
  | [] => "materi_pembelajaran"
  | (contentType, score) :: _ => if score = 0 then "materi_pembelajaran" else contentType

/-- `content_type_required_fields`. -/
def contentTypeRequiredFields (contentType : String) : List String :=
  if contentType = "slide_presentasi" then ["target_audience", "output_type"]
  else if contentType = "rpp" then ["target_audience", "learning_objectives"]
  else if contentType = "lembar_kerja" then ["target_audience", "difficulty_level"]
  else if contentType = "penilaian" then ["target_audience", "difficulty_level", "question_count"]
  else if contentType = "silabus" then ["target_audience"]
  else if contentType = "materi_pembelajaran" then ["target_audience", "output_type"]
  else ["target_audience"]

/-- `detected_content_type_label`. -/
def detectedContentTypeLabel (contentType : String) : String :=
  if contentType = "slide_presentasi" then "slide presentasi"
  else if contentType = "rpp" then "Rencana Pelaksanaan Pembelajaran (RPP)"
  else if contentType = "lembar_kerja" then "lembar kerja"
  else if contentType = "penilaian" then "penilaian/asesmen"
  else if contentType = "silabus" then "silabus"
  else if contentType = "materi_pembelajaran" then "materi pembelajaran"
  else "media pembelajaran"

/-- Whether the payload has a required field. -/
def isPresent (p : InterpretationPayload) (fieldId : String) : Bool :=
  if fieldId = "target_audience" then p.targetAudience.isSome
  else if fieldId = "output_type" then p.constraints.preferredOutputType ≠ "auto"
  else if fieldId = "learning_objectives" then !p.learningObjectives.isEmpty
  else if fieldId = "difficulty_level" then
    (p.interpretedFields.bind InterpretedFields.difficultyLevel).isSome
  else if fieldId = "question_count" then
    (p.interpretedFields.bind InterpretedFields.questionCount).isSome
  else false

/-- `find_missing_required_fields`. -/
def findMissingRequiredFields (p : InterpretationPayload) (required : List String) : List String :=
  required.filter fun fieldId => !isPresent p fieldId

/-- `vec_string_suggestions`. -/
def stringSuggestions (items : List String) : List Json := items.map .str

/-- `vec_number_suggestions`. -/
def numberSuggestions (items : List Int) : List Json := items.map fun n => .num (.int n)

/-- `vec_jenjang_suggestions`. -/
def jenjangSuggestions : List Json :=
  stringSuggestions ["SD Kelas 1", "SD Kelas 2", "SD Kelas 3", "SD Kelas 4", "SD Kelas 5",
    "SD Kelas 6", "SMP Kelas 7", "SMP Kelas 8", "SMP Kelas 9", "SMA Kelas 10", "SMA Kelas 11",
    "SMA Kelas 12"]

/-- A format that can be chosen. -/
def formatSuggestion (value label : String) : Json := .obj [("value", value), ("label", label)]

/-- The question for the target audience. -/
def audienceQuestion (topicHint subjectHint contentType : String) : String :=
  if contentType = "slide_presentasi" then
    "Slide presentasi '" ++ topicHint ++ "' ini ditujukan untuk siswa jenjang/kelas mana?"
  else if contentType = "rpp" then
    "RPP '" ++ topicHint ++ "' ini disusun untuk jenjang/kelas berapa?"
  else "Materi '" ++ topicHint ++ "' untuk " ++ subjectHint ++
    " ini ditujukan untuk siswa jenjang/kelas mana?"

/-- The question for the output type, with its suggestions. -/
def outputTypeQuestion (topicHint contentType : String) : String × List Json :=
  if contentType = "slide_presentasi" then
    ("Format file apa yang Anda inginkan untuk slide '" ++ topicHint ++ "' ini?",
      [formatSuggestion "pptx" "PowerPoint (.pptx)", formatSuggestion "pdf" "PDF (cetak)"])
  else
    ("Format file apa yang Anda inginkan untuk materi '" ++ topicHint ++ "' ini?",
      [formatSuggestion "pdf" "PDF (cetak)", formatSuggestion "docx" "Word (.docx)",
        formatSuggestion "pptx" "PowerPoint (.pptx)"])

/-- `generate_contextual_missing_field`. -/
def generateContextualMissingField (p : InterpretationPayload) (contentType fieldId : String) :
    MissingField :=
  let topicHint := p.documentBlueprint.title
  let subjectHint := (p.subjectContext.map SubjectContext.subjectName).getD "pelajaran ini"
  if fieldId = "target_audience" then
    { fieldId := "target_audience"
      fieldLabel := "Jenjang/Kelas"
      priority := "required"
      question := audienceQuestion topicHint subjectHint contentType
      suggestions := jenjangSuggestions
      inputType := "select" }
  else if fieldId = "output_type" then
    { fieldId := "output_type"
      fieldLabel := "Format Output"
      priority := "required"
      question := (outputTypeQuestion topicHint contentType).1
      suggestions := (outputTypeQuestion topicHint contentType).2
      inputType := "select" }
  else if fieldId = "learning_objectives" then
    { fieldId := "learning_objectives"
      fieldLabel := "Tujuan Pembelajaran"
      priority := "required"
      question := "Apa saja tujuan pembelajaran yang ingin dicapai dari '" ++ topicHint ++
        "'? Contoh: Memahami konsep X, Menganalisis Y, Menerapkan Z."
      suggestions := stringSuggestions
        ["Memahami konsep...", "Menganalisis...", "Menerapkan...", "Menjelaskan..."]
      inputType := "textarea" }
  else if fieldId = "difficulty_level" then
    { fieldId := "difficulty_level"
      fieldLabel := "Tingkat Kesulitan"
      priority := "required"
      question := "Tingkat kesulitan materi '" ++ topicHint ++ "' ini sebaiknya seperti apa?"
      suggestions := stringSuggestions ["Mudah (pengenalan dasar)", "Sedang (pemahaman konsep)",
        "Sulit (analisis dan evaluasi)"]
      inputType := "select" }
  else if fieldId = "question_count" then
    { fieldId := "question_count"
      fieldLabel := "Jumlah Soal"
      priority := "required"
      question := "Berapa jumlah soal yang Anda butuhkan untuk asesmen '" ++ topicHint ++ "' ini?"
      suggestions := numberSuggestions [10, 15, 20, 25, 30]
      inputType := "number" }
  else
    { fieldId
      fieldLabel := fieldId.map fun c => if c = '_' then ' ' else c
      priority := "recommended"
      question := "Informasi '" ++ fieldId ++ "' belum terdeteksi. Mohon lengkapi jika diperlukan."
      inputType := "text" }

/-- `build_interpreted_fields_from_payload`: what the payload says, or else what
it had interpreted before. -/
def buildInterpretedFields (p : InterpretationPayload) : InterpretedFields :=
  let existing {α : Type} (f : InterpretedFields → Option α) : Option α :=
    p.interpretedFields.bind f
  let audience := p.targetAudience.map fun a =>
    match a.level with
    | some level => a.label ++ " " ++ level
    | none => a.label
  let outputType :=
    if p.constraints.preferredOutputType ≠ "auto" then some p.constraints.preferredOutputType
    else p.outputTypeCandidates.head?.map OutputCandidate.type
  let objectives := if p.learningObjectives.isEmpty then none else some p.learningObjectives
  { targetAudience := audience.or (existing InterpretedFields.targetAudience)
    outputType := outputType.or (existing InterpretedFields.outputType)
    subject := (p.subjectContext.map SubjectContext.subjectName).or
      (existing InterpretedFields.subject)
    topic := some p.documentBlueprint.title
    learningObjectives := objectives.or (existing InterpretedFields.learningObjectives)
    pageCount := existing InterpretedFields.pageCount
    difficultyLevel := existing InterpretedFields.difficultyLevel
    includeActivities := existing InterpretedFields.includeActivities
    slideCount := existing InterpretedFields.slideCount
    questionCount := existing InterpretedFields.questionCount
    meetingDuration := existing InterpretedFields.meetingDuration
    teachingMethod := existing InterpretedFields.teachingMethod
    assessmentMethod := existing InterpretedFields.assessmentMethod
    visualDensity := p.requestedMediaCharacteristics.visualDensity.or
      (existing InterpretedFields.visualDensity)
    speakerNotes := existing InterpretedFields.speakerNotes
    questionType := existing InterpretedFields.questionType }

/-- `regenerate_plan_mode_from_interpretation`. -/
def regeneratePlanMode (p : InterpretationPayload) : InterpretationPayload :=
  let contentType := detectContentTypeFromPayload P p
  let missingFields := (findMissingRequiredFields p (contentTypeRequiredFields contentType)).map
    (generateContextualMissingField p contentType)
  let planActive := !missingFields.isEmpty
  let reason := "Berdasarkan analisis prompt, terdapat informasi yang belum lengkap untuk " ++
    detectedContentTypeLabel contentType ++ ": " ++
    ", ".intercalate (missingFields.map MissingField.fieldLabel) ++
    ". Silakan lengkapi informasi berikut agar media dapat dibuat dengan tepat."
  { p with
    planMode := {
      active := planActive
      reason := if planActive then some reason else none
      detectedContentType := some contentType
      contentTypeConfidence := some p.confidence.score }
    interpretedFields := some (buildInterpretedFields p)
    missingFields
    teacherIntent := { p.teacherIntent with requiresClarification := planActive } }

/-- The payload that a cache hit returns for a cached value, if it decodes. -/
def cacheHit (P : ContractPlatform) (cached : Json) : Option InterpretationPayload :=
  (InterpretationPayload.decode P cached).map (regeneratePlanMode P.toPlatform)

/-- A payload without its plan mode and what belongs to it. -/
def withoutPlanMode (p : InterpretationPayload) : InterpretationPayload :=
  { p with
    planMode := {}
    interpretedFields := none
    missingFields := []
    teacherIntent := { p.teacherIntent with requiresClarification := false } }

/-- Regenerating changes nothing but the plan mode and what belongs to it. -/
theorem withoutPlanMode_regeneratePlanMode (p : InterpretationPayload) :
    withoutPlanMode (regeneratePlanMode P p) = withoutPlanMode p := rfl

end KlassGateway.Contracts.PromptInterpretation
