import KlassGateway.Api.Listing
import KlassGateway.Llm.Clarification
/-!
# The preflight endpoint

Model of `preflight` in `api/rest/clarification.rs`, which adds a question for
every slide to the analysis of `ClarificationService::preflight` when the output
is a presentation.

What the model answers is a parameter, `none` when it was not asked or did not
answer with JSON.  Like the analysis, the handler is `none` where the topic is
not cut at a character.
-/

namespace KlassGateway.Api

open Lib Llm Standards

variable (P : TextPlatform)

/-! ## The number of slides -/

/-- `str::parse::<usize>`. -/
def parseUsize (s : String) : Option Nat :=
  let digits := match s.toList with
    | '+' :: cs => cs
    | cs => cs
  (Text.parseDigits digits).filter (· < 2 ^ 64)

/-- The number of slides that a prompt asks for. -/
def slideCountOf (rawPrompt : String) : Nat :=
  (((detectSlideCount P rawPrompt).or (detectPageCount P rawPrompt)).bind parseUsize).getD 5

/-! ## Suggestions -/

/-- `as_u64`. -/
def asU64 : Json → Option Nat
  | .num (.int n) => if 0 ≤ n ∧ n < 2 ^ 64 then some n.toNat else none
  | _ => none

/-- A text under a key. -/
def textAt (key : String) (v : Json) : Option String := (v.get key).bind Json.asStr

/-- A slide with what may stand on it. -/
structure SlideSuggestion where
  index : Nat
  title : String
  chips : List SuggestionChip

/-- A chip of a slide that the model suggests. -/
def chipOf (item : Json) : Option SuggestionChip :=
  let value := (textAt "value" item).getD ""
  let label := (textAt "label" item).getD value
  if value = "" then none else some ⟨value, label⟩

/-- A slide that the model suggests. -/
def slideOf (slide : Json) : Option SlideSuggestion :=
  let index := ((slide.get "slide_index").bind asU64).getD 0
  let title := (textAt "slide_title" slide).getD ""
  let items := ((slide.get "suggestions").bind Json.asArray).getD []
  let chips := items.filterMap chipOf
  if 0 < index ∧ title ≠ "" ∧ !chips.isEmpty then some ⟨index, title, chips⟩ else none

/-- The slides that the model suggests. -/
def suggestedSlides (reply : Option Json) : List SlideSuggestion :=
  let slides := ((reply.bind fun parsed => parsed.get "slides").bind Json.asArray).getD []
  slides.filterMap slideOf

/-- A chip with its value as the label. -/
def plainChip (value : String) : SuggestionChip := ⟨value, value⟩

/-- The suggestion for a slide without the model. -/
def fallbackSlide (topic : String) (i : Nat) : SlideSuggestion :=
  let title (part : String) := "Slide " ++ toString i ++ ": " ++ part ++ " (" ++ topic ++ ")"
  let onTopic (texts : List String) := texts.map fun text => plainChip (text ++ " " ++ topic)
  match i with
  | 1 => ⟨i, title "Pembuka / Judul",
      onTopic ["Judul: Pembelajaran", "Judul: Mengenal", "Judul: Pengantar"]⟩
  | 2 => ⟨i, title "Pengertian / Konsep",
      onTopic ["Definisi dasar", "Latar belakang", "Gambaran umum"]⟩
  | 3 => ⟨i, title "Materi Inti / Contoh",
      onTopic ["Contoh pertama", "Struktur dan bagian", "Cara kerja"]⟩
  | 4 => ⟨i, title "Pembahasan / Aplikasi",
      onTopic ["Penerapan", "Latihan bersama", "Studi kasus"]⟩
  | _ => ⟨i, title "Penutup / Evaluasi",
      ["Ringkasan & Kuis", "Latihan Soal Mandiri", "Kesimpulan & Penutup"].map plainChip⟩

/-- The slides to ask about. -/
def slideSuggestions (slideCount : Nat) (topic : String) (reply : Option Json) :
    List SlideSuggestion :=
  let suggested := suggestedSlides reply
  if suggested.isEmpty then (List.range' 1 slideCount).map (fallbackSlide topic) else suggested

/-! ## Questions -/

/-- The question for a slide. -/
def slideGap (slide : SlideSuggestion) : ContentGap where
  fieldId := "slide_" ++ toString slide.index
  question := "Apa isi dari " ++ slide.title ++ "?"
  priority := "recommended"
  inputType := "text_input"
  suggestions := slide.chips

/-- An analysis with the questions for the slides of a presentation. -/
def withSlideQuestions (rawPrompt : String) (reply : Option Json)
    (analysis : ClarificationResponse) : Option ClarificationResponse := do
  if analysis.detected.outputType = some "pptx" then
    let topic ← extractTopic P rawPrompt
    let slides := slideSuggestions (slideCountOf P rawPrompt) (topic.getD rawPrompt) reply
    return { analysis with
      gaps := analysis.gaps ++ slides.map slideGap
      totalRecommendedGaps := analysis.totalRecommendedGaps + slides.length
      isReady := false }
  else return analysis

/-- `preflight`. -/
def preflight (resolveSubjectName : Int → Option String) (reply : Option Json)
    (principal : Principal) (generationId : Uuid) (payload : PreflightInput) :
    Except AppError (Option ClarificationResponse) :=
  asTeacher principal
    (if Text.trim payload.rawPrompt = "" then
      throw (.validation "raw_prompt tidak boleh kosong")
    else return do
      let analysis ← Llm.preflight P generationId payload
      let subject := match analysis.detected.subjectId with
        | some subjectId => resolveSubjectName subjectId
        | none => analysis.detected.subject
      withSlideQuestions P payload.rawPrompt reply
        { analysis with detected := { analysis.detected with subject } })

/-! ## Which slides are asked about -/

/-- A slide that the handler asks about for some number of slides. -/
def SlideAsked (i : Nat) : Prop :=
  ∃ slideCount topic reply, slideCount < 2 ^ 64 ∧
    i ∈ (slideSuggestions slideCount topic reply).map SlideSuggestion.index

theorem asU64_lt {v : Json} {n : Nat} (h : asU64 v = some n) : n < 2 ^ 64 := by
  unfold asU64 at h
  split at h
  · split at h
    · cases h
      omega
    · cases h
  · cases h

theorem slideOf_index {slide : Json} {s : SlideSuggestion} (h : slideOf slide = some s) :
    0 < s.index ∧ s.index < 2 ^ 64 := by
  unfold slideOf at h
  dsimp only at h
  split at h
  · next hvalid =>
    cases h
    refine ⟨hvalid.1, ?_⟩
    show ((slide.get "slide_index").bind asU64).getD 0 < 2 ^ 64
    cases hindex : (slide.get "slide_index").bind asU64 with
    | none => decide
    | some n =>
      obtain ⟨v, _, hv⟩ := Option.bind_eq_some_iff.1 hindex
      exact asU64_lt hv
  · cases h

theorem fallbackSlide_index (topic : String) (i : Nat) : (fallbackSlide topic i).index = i := by
  unfold fallbackSlide
  dsimp only
  split <;> rfl

/-- Every number from 1 on that the source can write may be asked about, and no
other. -/
theorem slideAsked_iff (i : Nat) : SlideAsked i ↔ 0 < i ∧ i < 2 ^ 64 := by
  constructor
  · rintro ⟨slideCount, topic, reply, hcount, hmem⟩
    obtain ⟨s, hs, rfl⟩ := List.mem_map.1 hmem
    unfold slideSuggestions at hs
    dsimp only at hs
    split at hs
    · obtain ⟨j, hj, rfl⟩ := List.mem_map.1 hs
      rw [fallbackSlide_index]
      have hrange := List.mem_range'_1.1 hj
      omega
    · obtain ⟨slide, _, hslide⟩ := List.mem_filterMap.1 hs
      exact slideOf_index hslide
  · rintro ⟨hpos, hlt⟩
    refine ⟨i, "", none, hlt, List.mem_map.2 ⟨fallbackSlide "" i, ?_, fallbackSlide_index _ i⟩⟩
    exact List.mem_map.2 ⟨i, List.mem_range'_1.2 (by omega), rfl⟩

end KlassGateway.Api
