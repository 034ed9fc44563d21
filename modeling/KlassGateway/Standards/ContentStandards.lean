import KlassGateway.Base
import Mathlib.Data.List.Sort
/-!
# Content standards

Model of the tables of `standards/content_standards.rs`: which fields a content
type requires or recommends, with the suggestions for each.

There are two tables.  `getClarificationFields` serves the analysis by
keywords, `getMinimumRequirements` the one that starts from an interpretation.
Labels and descriptions that no function below reads are left out.
-/

namespace KlassGateway.Standards

/-- `FieldPriority`. -/
inductive FieldPriority where
  | required
  | recommended
  | optional
  deriving DecidableEq, Repr

namespace FieldPriority

/-- `as_str`. -/
def asStr : FieldPriority → String
  | required => "required"
  | recommended => "recommended"
  | optional => "optional"

/-- The sort key of `get_clarification_fields`. -/
def rank : FieldPriority → Nat
  | required => 0
  | recommended => 1
  | optional => 2

end FieldPriority

/-- `InputType`. -/
inductive InputType where
  | select
  | multiSelect
  | textInput
  | numberInput
  deriving DecidableEq, Repr

/-- `InputType::as_str`. -/
def InputType.asStr : InputType → String
  | select => "select"
  | multiSelect => "multi_select"
  | textInput => "text_input"
  | numberInput => "number_input"

/-- `SuggestionChip`. -/
structure SuggestionChip where
  value : String
  label : String
  deriving DecidableEq, Repr

/-- `FieldDefinition`. -/
structure FieldDefinition where
  fieldId : String
  labelId : String
  inputType : InputType
  priority : FieldPriority
  suggestions : List SuggestionChip := []

/-- `ContentType`. -/
inductive ContentType where
  | materiPembelajaran
  | slidePresentasi
  | rpp
  | lembarKerja
  | silabus
  | penilaian
  | unknown
  deriving DecidableEq, Repr

/-- `ContentType::as_str`. -/
def ContentType.asStr : ContentType → String
  | materiPembelajaran => "materi_pembelajaran"
  | slidePresentasi => "slide_presentasi"
  | rpp => "rpp"
  | lembarKerja => "lembar_kerja"
  | silabus => "silabus"
  | penilaian => "penilaian"
  | unknown => "unknown"

/-- `ContentGap`: a field that has to be asked for. -/
structure ContentGap where
  fieldId : String
  question : String
  priority : String
  inputType : String
  suggestions : List SuggestionChip
  detectedValue : Option String := none

/-! ## Suggestions -/

/-- `grade_level_suggestions`. -/
def gradeLevelSuggestions : List SuggestionChip := [
  ⟨"SD_Kelas_1", "SD Kelas 1"⟩,
  ⟨"SD_Kelas_2", "SD Kelas 2"⟩,
  ⟨"SD_Kelas_3", "SD Kelas 3"⟩,
  ⟨"SD_Kelas_4", "SD Kelas 4"⟩,
  ⟨"SD_Kelas_5", "SD Kelas 5"⟩,
  ⟨"SD_Kelas_6", "SD Kelas 6"⟩,
  ⟨"SMP_Kelas_7", "SMP Kelas 7"⟩,
  ⟨"SMP_Kelas_8", "SMP Kelas 8"⟩,
  ⟨"SMP_Kelas_9", "SMP Kelas 9"⟩,
  ⟨"SMA_Kelas_10", "SMA Kelas 10"⟩,
  ⟨"SMA_Kelas_11", "SMA Kelas 11"⟩,
  ⟨"SMA_Kelas_12", "SMA Kelas 12"⟩]

/-- `output_type_suggestions`. -/
def outputTypeSuggestions : List SuggestionChip := [
  ⟨"pdf", "PDF (Untuk Dicetak)"⟩,
  ⟨"docx", "Word (Bisa Diedit)"⟩,
  ⟨"pptx", "PowerPoint (Presentasi)"⟩]

/-- `page_count_suggestions`. -/
def pageCountSuggestions : List SuggestionChip := [
  ⟨"short", "Singkat (2-3 halaman)"⟩,
  ⟨"medium", "Sedang (5-7 halaman)"⟩,
  ⟨"long", "Lengkap (10+ halaman)"⟩]

/-- `slide_count_suggestions`. -/
def slideCountSuggestions : List SuggestionChip := [
  ⟨"short", "Singkat (8-10 slide)"⟩,
  ⟨"medium", "Sedang (15-20 slide)"⟩,
  ⟨"long", "Lengkap (25+ slide)"⟩]

/-- `meeting_duration_suggestions`. -/
def meetingDurationSuggestions : List SuggestionChip := [
  ⟨"35", "35 Menit"⟩,
  ⟨"40", "40 Menit"⟩,
  ⟨"45", "45 Menit"⟩,
  ⟨"2x45", "2 x 45 Menit (1 JP)"⟩]

/-- `teaching_method_suggestions`. -/
def teachingMethodSuggestions : List SuggestionChip := [
  ⟨"ceramah", "Ceramah"⟩,
  ⟨"diskusi", "Diskusi"⟩,
  ⟨"praktik", "Praktik"⟩,
  ⟨"inquiry", "Inkuiri"⟩,
  ⟨"problem_based", "Problem Based Learning"⟩,
  ⟨"project_based", "Project Based Learning"⟩]

/-- `assessment_method_suggestions`. -/
def assessmentMethodSuggestions : List SuggestionChip := [
  ⟨"written_test", "Tes Tertulis"⟩,
  ⟨"oral", "Tes Lisan"⟩,
  ⟨"practical", "Penilaian Praktik"⟩,
  ⟨"portfolio", "Portofolio"⟩,
  ⟨"observation", "Observasi"⟩]

/-- `difficulty_level_suggestions`. -/
def difficultyLevelSuggestions : List SuggestionChip := [
  ⟨"mudah", "Mudah"⟩,
  ⟨"sedang", "Sedang"⟩,
  ⟨"sulit", "Sulit"⟩,
  ⟨"campuran", "Campuran"⟩]

/-- `visual_density_suggestions`. -/
def visualDensitySuggestions : List SuggestionChip := [
  ⟨"visual", "Banyak Gambar/Visual"⟩,
  ⟨"balanced", "Seimbang Teks & Visual"⟩,
  ⟨"text_focused", "Fokus Teks"⟩]

/-! ## Standards -/

/-- `materi_pembelajaran_standards`. -/
def materiPembelajaranStandards : List FieldDefinition := [
  { fieldId := "target_audience"
    labelId := "Jenjang/Kelas"
    inputType := .select
    priority := .required
    suggestions := gradeLevelSuggestions },
  { fieldId := "output_type"
    labelId := "Format File"
    inputType := .select
    priority := .required
    suggestions := outputTypeSuggestions },
  { fieldId := "learning_objectives"
    labelId := "Tujuan Pembelajaran"
    inputType := .textInput
    priority := .recommended },
  { fieldId := "page_count"
    labelId := "Jumlah Halaman"
    inputType := .select
    priority := .recommended
    suggestions := pageCountSuggestions },
  { fieldId := "include_activities"
    labelId := "Sertakan Latihan?"
    inputType := .select
    priority := .recommended
    suggestions := [
      ⟨"yes", "Ya, sertakan latihan"⟩,
      ⟨"no", "Tidak, materi saja"⟩] }]

/-- `slide_presentasi_standards`. -/
def slidePresentasiStandards : List FieldDefinition := [
  { fieldId := "target_audience"
    labelId := "Jenjang/Kelas"
    inputType := .select
    priority := .required
    suggestions := gradeLevelSuggestions },
  { fieldId := "output_type"
    labelId := "Format File"
    inputType := .select
    priority := .required
    suggestions := [⟨"pptx", "PowerPoint (Presentasi)"⟩] },
  { fieldId := "slide_count"
    labelId := "Jumlah Slide"
    inputType := .select
    priority := .recommended
    suggestions := slideCountSuggestions },
  { fieldId := "visual_density"
    labelId := "Tampilan Slide"
    inputType := .select
    priority := .recommended
    suggestions := visualDensitySuggestions },
  { fieldId := "speaker_notes"
    labelId := "Catatan Presenter"
    inputType := .select
    priority := .optional
    suggestions := [
      ⟨"yes", "Ya, sertakan catatan"⟩,
      ⟨"no", "Tidak"⟩] }]

/-- `rpp_standards`. -/
def rppStandards : List FieldDefinition := [
  { fieldId := "target_audience"
    labelId := "Jenjang/Kelas"
    inputType := .select
    priority := .required
    suggestions := gradeLevelSuggestions },
  { fieldId := "learning_objectives"
    labelId := "Tujuan Pembelajaran"
    inputType := .textInput
    priority := .required },
  { fieldId := "meeting_duration"
    labelId := "Durasi Pertemuan"
    inputType := .select
    priority := .recommended
    suggestions := meetingDurationSuggestions },
  { fieldId := "teaching_method"
    labelId := "Metode Pembelajaran"
    inputType := .multiSelect
    priority := .recommended
    suggestions := teachingMethodSuggestions },
  { fieldId := "assessment_method"
    labelId := "Cara Penilaian"
    inputType := .multiSelect
    priority := .recommended
    suggestions := assessmentMethodSuggestions }]

/-- `lembar_kerja_standards`. -/
def lembarKerjaStandards : List FieldDefinition := [
  { fieldId := "target_audience"
    labelId := "Jenjang/Kelas"
    inputType := .select
    priority := .required
    suggestions := gradeLevelSuggestions },
  { fieldId := "difficulty_level"
    labelId := "Tingkat Kesulitan"
    inputType := .select
    priority := .required
    suggestions := difficultyLevelSuggestions },
  { fieldId := "page_count"
    labelId := "Jumlah Halaman"
    inputType := .select
    priority := .recommended
    suggestions := pageCountSuggestions },
  { fieldId := "question_count"
    labelId := "Jumlah Soal"
    inputType := .numberInput
    priority := .recommended },
  { fieldId := "output_type"
    labelId := "Format File"
    inputType := .select
    priority := .optional
    suggestions := outputTypeSuggestions }]

/-- `silabus_standards`. -/
def silabusStandards : List FieldDefinition := [
  { fieldId := "target_audience"
    labelId := "Jenjang/Kelas"
    inputType := .select
    priority := .required
    suggestions := gradeLevelSuggestions },
  { fieldId := "learning_objectives"
    labelId := "Tujuan Pembelajaran"
    inputType := .textInput
    priority := .recommended },
  { fieldId := "output_type"
    labelId := "Format File"
    inputType := .select
    priority := .optional
    suggestions := outputTypeSuggestions }]

/-- `penilaian_standards`. -/
def penilaianStandards : List FieldDefinition := [
  { fieldId := "target_audience"
    labelId := "Jenjang/Kelas"
    inputType := .select
    priority := .required
    suggestions := gradeLevelSuggestions },
  { fieldId := "difficulty_level"
    labelId := "Tingkat Kesulitan"
    inputType := .select
    priority := .required
    suggestions := difficultyLevelSuggestions },
  { fieldId := "question_count"
    labelId := "Jumlah Soal"
    inputType := .numberInput
    priority := .required },
  { fieldId := "question_type"
    labelId := "Jenis Soal"
    inputType := .multiSelect
    priority := .recommended
    suggestions := [
      ⟨"pilihan_ganda", "Pilihan Ganda"⟩,
      ⟨"essay", "Essay"⟩,
      ⟨"uraian", "Uraian"⟩,
      ⟨"benar_salah", "Benar/Salah"⟩,
      ⟨"isian_singkat", "Isian Singkat"⟩] },
  { fieldId := "output_type"
    labelId := "Format File"
    inputType := .select
    priority := .optional
    suggestions := outputTypeSuggestions }]

/-- `default_standards`. -/
def defaultStandards : List FieldDefinition := materiPembelajaranStandards

/-- `get_standards_for_content_type`. -/
def getStandardsForContentType : ContentType → List FieldDefinition
  | .materiPembelajaran => materiPembelajaranStandards
  | .slidePresentasi => slidePresentasiStandards
  | .rpp => rppStandards
  | .lembarKerja => lembarKerjaStandards
  | .silabus => silabusStandards
  | .penilaian => penilaianStandards
  | .unknown => defaultStandards

/-- `get_clarification_fields`: five fields at most that are not optional, the
required ones first. -/
def getClarificationFields (contentType : ContentType) : List FieldDefinition :=
  (((getStandardsForContentType contentType).filter fun f => f.priority ≠ .optional).take
    5).insertionSort fun a b => a.priority.rank ≤ b.priority.rank

/-! ## Minimum requirements -/

/-- `MinimumRequirementField`. -/
structure MinimumRequirementField where
  fieldId : String
  fieldLabel : String
  inputType : String
  suggestions : List SuggestionChip := []

/-- `MinimumRequirements`. -/
structure MinimumRequirements where
  requiredFields : List MinimumRequirementField
  recommendedFields : List MinimumRequirementField

/-- `get_minimum_requirements`. -/
def getMinimumRequirements : ContentType → MinimumRequirements
  | .materiPembelajaran => {
      requiredFields := [
        { fieldId := "target_audience"
          fieldLabel := "Jenjang/Kelas"
          inputType := "select"
          suggestions := gradeLevelSuggestions },
        { fieldId := "output_type"
          fieldLabel := "Format File"
          inputType := "select"
          suggestions := outputTypeSuggestions }]
      recommendedFields := [
        { fieldId := "learning_objectives"
          fieldLabel := "Tujuan Pembelajaran"
          inputType := "text_input" },
        { fieldId := "page_count"
          fieldLabel := "Jumlah Halaman"
          inputType := "select"
          suggestions := pageCountSuggestions },
        { fieldId := "include_activities"
          fieldLabel := "Sertakan Latihan?"
          inputType := "select"
          suggestions := [
            ⟨"yes", "Ya, sertakan latihan"⟩,
            ⟨"no", "Tidak, materi saja"⟩] }] }
  | .slidePresentasi => {
      requiredFields := [
        { fieldId := "target_audience"
          fieldLabel := "Jenjang/Kelas"
          inputType := "select"
          suggestions := gradeLevelSuggestions },
        { fieldId := "output_type"
          fieldLabel := "Format File"
          inputType := "select"
          suggestions := [⟨"pptx", "PowerPoint (Presentasi)"⟩] }]
      recommendedFields := [
        { fieldId := "slide_count"
          fieldLabel := "Jumlah Slide"
          inputType := "select"
          suggestions := slideCountSuggestions },
        { fieldId := "visual_density"
          fieldLabel := "Tampilan Slide"
          inputType := "select"
          suggestions := visualDensitySuggestions },
        { fieldId := "speaker_notes"
          fieldLabel := "Catatan Presenter"
          inputType := "select"
          suggestions := [
            ⟨"yes", "Ya, sertakan catatan"⟩,
            ⟨"no", "Tidak"⟩] }] }
  | .rpp => {
      requiredFields := [
        { fieldId := "target_audience"
          fieldLabel := "Jenjang/Kelas"
          inputType := "select"
          suggestions := gradeLevelSuggestions },
        { fieldId := "learning_objectives"
          fieldLabel := "Tujuan Pembelajaran"
          inputType := "text_input" }]
      recommendedFields := [
        { fieldId := "meeting_duration"
          fieldLabel := "Durasi Pertemuan"
          inputType := "select"
          suggestions := meetingDurationSuggestions },
        { fieldId := "teaching_method"
          fieldLabel := "Metode Pembelajaran"
          inputType := "multi_select"
          suggestions := teachingMethodSuggestions },
        { fieldId := "assessment_method"
          fieldLabel := "Cara Penilaian"
          inputType := "multi_select"
          suggestions := assessmentMethodSuggestions }] }
  | .lembarKerja => {
      requiredFields := [
        { fieldId := "target_audience"
          fieldLabel := "Jenjang/Kelas"
          inputType := "select"
          suggestions := gradeLevelSuggestions },
        { fieldId := "difficulty_level"
          fieldLabel := "Tingkat Kesulitan"
          inputType := "select"
          suggestions := difficultyLevelSuggestions }]
      recommendedFields := [
        { fieldId := "page_count"
          fieldLabel := "Jumlah Halaman"
          inputType := "select"
          suggestions := pageCountSuggestions },
        { fieldId := "question_count"
          fieldLabel := "Jumlah Soal"
          inputType := "number_input" },
        { fieldId := "output_type"
          fieldLabel := "Format File"
          inputType := "select"
          suggestions := outputTypeSuggestions }] }
  | .silabus => {
      requiredFields := [
        { fieldId := "target_audience"
          fieldLabel := "Jenjang/Kelas"
          inputType := "select"
          suggestions := gradeLevelSuggestions }]
      recommendedFields := [
        { fieldId := "learning_objectives"
          fieldLabel := "Tujuan Pembelajaran"
          inputType := "text_input" },
        { fieldId := "output_type"
          fieldLabel := "Format File"
          inputType := "select"
          suggestions := outputTypeSuggestions }] }
  | .penilaian => {
      requiredFields := [
        { fieldId := "target_audience"
          fieldLabel := "Jenjang/Kelas"
          inputType := "select"
          suggestions := gradeLevelSuggestions },
        { fieldId := "difficulty_level"
          fieldLabel := "Tingkat Kesulitan"
          inputType := "select"
          suggestions := difficultyLevelSuggestions },
        { fieldId := "question_count"
          fieldLabel := "Jumlah Soal"
          inputType := "number_input" }]
      recommendedFields := [
        { fieldId := "question_type"
          fieldLabel := "Jenis Soal"
          inputType := "multi_select"
          suggestions := [
            ⟨"pilihan_ganda", "Pilihan Ganda"⟩,
            ⟨"essay", "Essay"⟩,
            ⟨"uraian", "Uraian"⟩,
            ⟨"benar_salah", "Benar/Salah"⟩,
            ⟨"isian_singkat", "Isian Singkat"⟩] },
        { fieldId := "output_type"
          fieldLabel := "Format File"
          inputType := "select"
          suggestions := outputTypeSuggestions }] }
  | .unknown => {
      requiredFields := [
        { fieldId := "target_audience"
          fieldLabel := "Jenjang/Kelas"
          inputType := "select"
          suggestions := gradeLevelSuggestions },
        { fieldId := "output_type"
          fieldLabel := "Format File"
          inputType := "select"
          suggestions := outputTypeSuggestions }]
      recommendedFields := [] }

/-! ## The fields of both tables -/

theorem clarificationFields_nodup (contentType : ContentType) :
    ((getClarificationFields contentType).map FieldDefinition.fieldId).Nodup := by
  cases contentType <;> decide

/-- No field is both required and recommended. -/
theorem minimumRequirements_nodup (contentType : ContentType) :
    (((getMinimumRequirements contentType).requiredFields ++
      (getMinimumRequirements contentType).recommendedFields).map
        MinimumRequirementField.fieldId).Nodup := by
  cases contentType <;> decide

/-- With its required fields a content type has five at most, so none of the
recommended ones is ever cut off. -/
theorem minimumRequirements_length_le (contentType : ContentType) :
    (getMinimumRequirements contentType).requiredFields.length +
      (getMinimumRequirements contentType).recommendedFields.length ≤ 5 := by
  cases contentType <;> decide

theorem audience_mem_required (contentType : ContentType) :
    "target_audience" ∈ (getMinimumRequirements contentType).requiredFields.map
      MinimumRequirementField.fieldId := by
  cases contentType <;> decide

/-- Only a lesson plan has no output type among its fields. -/
theorem outputType_mem_iff (contentType : ContentType) :
    "output_type" ∈ ((getMinimumRequirements contentType).requiredFields ++
      (getMinimumRequirements contentType).recommendedFields).map
        MinimumRequirementField.fieldId ↔ contentType ≠ .rpp := by
  cases contentType <;> decide

end KlassGateway.Standards
