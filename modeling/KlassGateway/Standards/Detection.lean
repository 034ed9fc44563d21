import KlassGateway.Standards.ContentStandards
import KlassGateway.Lib.Text
/-!
# Detection by keywords

Model of the `detect_*` functions of `standards/content_standards.rs`.  Each
looks for keywords in the lower-cased prompt, some for a pattern first.

The regular expressions are those of another crate.  `TextPlatform` has a
function for each way in which they are used, with the pattern as a text.
-/

namespace KlassGateway.Standards

open Lib

/-- The text functions with those on regular expressions. -/
structure TextPlatform extends Platform where
  /-- `Regex::is_match`. -/
  regexIsMatch : (pattern text : String) → Bool
  /-- The first group of the first match. -/
  regexCapture : (pattern text : String) → Option String

variable (P : TextPlatform)

/-! ## The content type -/

/-- `count_signals`. -/
def countSignals (text : String) (signals : List String) : Rat :=
  let total := signals.length
  let matched := (signals.filter (Text.contains text)).length
  if total = 0 then 0 else matched / total

/-- The content types that are scored, with their signals. -/
def contentSignals : List (ContentType × List String) := [
  (.slidePresentasi, ["slide", "presentasi", "pptx", "powerpoint", "slideshow"]),
  (.rpp, ["rpp", "lesson plan", "rencana pelaksanaan", "rencana pembelajaran"]),
  (.lembarKerja, ["lembar kerja", "worksheet", "latihan", "soal", "ujian", "tes", "assessment",
    "penilaian"]),
  (.silabus, ["silabus", "syllabus", "kurikulum"]),
  (.materiPembelajaran, ["materi", "modul", "belajar", "pembelajaran", "handout", "bahan ajar"])]

/-- `max_by` on the scores: the last one of several that are largest. -/
def bestScore : List (ContentType × Rat) → Option (ContentType × Rat)
  | [] => none
  | s :: rest =>
    match bestScore rest with
    | some best => if s.2 ≤ best.2 then some best else some s
    | none => some s

/-- `detect_content_type`. -/
def detectContentType (prompt : String) : ContentType × Rat :=
  let lower := P.toLowercase prompt
  let scores := contentSignals.map fun (contentType, signals) =>
    (contentType, countSignals lower signals)
  match bestScore scores with
  | some best => if best.2 < 15 / 100 then (.unknown, 0) else best
  | none => (.unknown, 0)

/-! ## Fields -/

/-- A value if one of some keywords occurs. -/
def ifMentioned (lower : String) (keywords : List String) (value : String) : Option String :=
  if keywords.any (Text.contains lower) then some value else none

/-- A number that a pattern finds, or else `specified` for a keyword. -/
def countOrSpecified (lower pattern : String) (keywords : List String) : Option String :=
  (P.regexCapture pattern lower).or (ifMentioned lower keywords "specified")

/-- `detect_output_type`. -/
def detectOutputType (prompt : String) : Option String :=
  let lower := P.toLowercase prompt
  if ["pptx", "ppt", "powerpoint", "slide presentasi"].any (Text.contains lower) ||
      (Text.contains lower "slide" && !Text.contains lower "handout") ||
      Text.contains lower "presentasi" then
    some "pptx"
  else
    (ifMentioned lower ["pdf", "cetak", "print"] "pdf").or
      (ifMentioned lower ["docx", "doc", "word", "dokumen", "edit"] "docx")

/-- The grades of `detect_target_audience`, in the order in which they are
tried. -/
def gradePatterns : List (String × String) := [
  ("kelas 1", "SD Kelas 1"), ("kelas 2", "SD Kelas 2"), ("kelas 3", "SD Kelas 3"),
  ("kelas 4", "SD Kelas 4"), ("kelas 5", "SD Kelas 5"), ("kelas 6", "SD Kelas 6"),
  ("kelas 7", "SMP Kelas 7"), ("kelas 8", "SMP Kelas 8"), ("kelas 9", "SMP Kelas 9"),
  ("kelas 10", "SMA Kelas 10"), ("kelas 11", "SMA Kelas 11"), ("kelas 12", "SMA Kelas 12"),
  ("kelas x", "SMA Kelas 10"), ("kelas xi", "SMA Kelas 11"), ("kelas xii", "SMA Kelas 12"),
  ("grade 1", "SD Kelas 1"), ("grade 2", "SD Kelas 2"), ("grade 3", "SD Kelas 3"),
  ("grade 4", "SD Kelas 4"), ("grade 5", "SD Kelas 5"), ("grade 6", "SD Kelas 6"),
  ("grade 7", "SMP Kelas 7"), ("grade 8", "SMP Kelas 8"), ("grade 9", "SMP Kelas 9"),
  ("grade 10", "SMA Kelas 10"), ("grade 11", "SMA Kelas 11"), ("grade 12", "SMA Kelas 12")]

/-- The school levels that stand as a word of their own. -/
def standaloneLevels : List (String × String) :=
  [("sd", "SD"), ("smp", "SMP"), ("sma", "SMA"), ("smk", "SMK"), ("paud", "PAUD"), ("tk", "TK")]

/-- The pattern of a whole word. -/
def wordPattern (word : String) : String := "\\b" ++ word ++ "\\b"

/-- `detect_target_audience`. -/
def detectTargetAudience (prompt : String) : Option String :=
  let lower := P.toLowercase prompt
  let grade := gradePatterns.find? fun (pattern, _) => Text.contains lower pattern
  let level := standaloneLevels.find? fun (word, _) => P.regexIsMatch (wordPattern word) lower
  (grade.map Prod.snd).or (level.map Prod.snd)

/-- `detect_page_count`. -/
def detectPageCount (prompt : String) : Option String :=
  countOrSpecified P (P.toLowercase prompt) "(\\d+)\\s*(?:halaman|hal|lembar|pages?)"
    ["jumlah halaman", "2-3 halaman", "5-7 halaman", "10+ halaman"]

/-- `detect_slide_count`. -/
def detectSlideCount (prompt : String) : Option String :=
  countOrSpecified P (P.toLowercase prompt) "(\\d+)\\s*(?:slides?)"
    ["jumlah slide", "8-10 slide", "15-20 slide", "25+ slide"]

/-- `detect_question_count`. -/
def detectQuestionCount (prompt : String) : Option String :=
  countOrSpecified P (P.toLowercase prompt) "(\\d+)\\s*(?:soal|pertanyaan|item|nomor)"
    ["jumlah soal"]

/-- The words of `detect_difficulty_level`. -/
def difficultyWords : List (String × String) := [
  ("mudah", "mudah"), ("easy", "mudah"), ("sedang", "sedang"), ("medium", "sedang"),
  ("sulit", "sulit"), ("hard", "sulit"), ("hots", "sulit"), ("campuran", "campuran"),
  ("mixed", "campuran")]

/-- `detect_difficulty_level`. -/
def detectDifficultyLevel (prompt : String) : Option String :=
  let lower := P.toLowercase prompt
  let level := difficultyWords.find? fun (word, _) => P.regexIsMatch (wordPattern word) lower
  (level.map Prod.snd).or (ifMentioned lower ["tingkat kesulitan", "kesulitan"] "specified")

/-- `detect_include_activities`. -/
def detectIncludeActivities (prompt : String) : Option String :=
  ifMentioned (P.toLowercase prompt)
    ["sertakan latihan", "dengan latihan", "ada latihan", "tanpa latihan", "latihan soal"] "yes"

/-- `detect_meeting_duration`. -/
def detectMeetingDuration (prompt : String) : Option String :=
  let lower := P.toLowercase prompt
  if P.regexIsMatch "(\\d+)\\s*(?:menit|jp)" lower then some "specified"
  else ifMentioned lower ["2x45", "durasi pertemuan"] "specified"

/-- `detect_teaching_method`. -/
def detectTeachingMethod (prompt : String) : Option String :=
  ifMentioned (P.toLowercase prompt) ["metode", "ceramah", "diskusi", "inquiry", "inkuiri", "pbl",
    "pjbl", "problem based", "project based"] "specified"

/-- `detect_assessment_method`. -/
def detectAssessmentMethod (prompt : String) : Option String :=
  ifMentioned (P.toLowercase prompt)
    ["tes tertulis", "tes lisan", "portofolio", "observasi", "cara penilaian"] "specified"

/-- `detect_question_type`. -/
def detectQuestionType (prompt : String) : Option String :=
  ifMentioned (P.toLowercase prompt) ["pilihan ganda", "pg", "essay", "esai", "uraian",
    "benar/salah", "benar salah", "isian singkat", "mcq"] "specified"

/-- `detect_learning_objectives`. -/
def detectLearningObjectives (prompt : String) : Option String :=
  ifMentioned (P.toLowercase prompt) ["tujuan pembelajaran", "tujuan:", "agar siswa",
    "supaya siswa", "capaian pembelajaran"] "specified"

/-- `detect_visual_density`. -/
def detectVisualDensity (prompt : String) : Option String :=
  ifMentioned (P.toLowercase prompt)
    ["banyak gambar", "fokus teks", "tampilan slide", "seimbang visual"] "specified"

/-- `detect_speaker_notes`. -/
def detectSpeakerNotes (prompt : String) : Option String :=
  ifMentioned (P.toLowercase prompt)
    ["catatan presenter", "catatan pembicara", "speaker notes"] "specified"

/-- `detect_field_value_from_prompt`. -/
def detectFieldValueFromPrompt (fieldId prompt : String) : Option String :=
  if fieldId = "target_audience" then detectTargetAudience P prompt
  else if fieldId = "output_type" then detectOutputType P prompt
  else if fieldId = "page_count" then detectPageCount P prompt
  else if fieldId = "slide_count" then detectSlideCount P prompt
  else if fieldId = "question_count" then detectQuestionCount P prompt
  else if fieldId = "difficulty_level" then detectDifficultyLevel P prompt
  else if fieldId = "include_activities" then detectIncludeActivities P prompt
  else if fieldId = "meeting_duration" then detectMeetingDuration P prompt
  else if fieldId = "teaching_method" then detectTeachingMethod P prompt
  else if fieldId = "assessment_method" then detectAssessmentMethod P prompt
  else if fieldId = "question_type" then detectQuestionType P prompt
  else if fieldId = "learning_objectives" then detectLearningObjectives P prompt
  else if fieldId = "visual_density" then detectVisualDensity P prompt
  else if fieldId = "speaker_notes" then detectSpeakerNotes P prompt
  else none

end KlassGateway.Standards
