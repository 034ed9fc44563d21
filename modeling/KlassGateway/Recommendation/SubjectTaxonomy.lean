import KlassGateway.Lib.Sorting
import KlassGateway.Lib.Words
import KlassGateway.Orchestrator.Decision
import KlassGateway.Recommendation.Taxonomy
import Mathlib.Algebra.Order.Ring.Rat
import Mathlib.Data.List.Dedup
/-!
# The subject of a prompt

Model of `infer` of `SubjectsJsonTaxonomyCatalog` in `recommendation/taxonomy.rs`:
every entry of the catalog is scored against the prompt, and the best one is
returned if the score is high enough or a name is mentioned.

The entries are a parameter, and so are the character classes of the regular
expressions.  Scores are rational numbers.
-/

namespace KlassGateway.Recommendation

open Lib Lib.Text Orchestrator

/-- What the code takes from the standard library and from the regular
expressions. -/
structure TextClasses where
  /-- `str::to_lowercase`. -/
  toLowercase : String → String
  /-- `[\p{L}\p{N}]`. -/
  isAlphanumeric : Char → Bool
  /-- `\w`, which decides where `\b` matches. -/
  isWordChar : Char → Bool

/-- The table of `STOPWORDS`. -/
def stopwords : List String :=
  ["agar", "ajar", "aku", "analisis", "buat", "buatkan", "contoh", "dan",
    "dengan", "di", "dokumen", "file", "guru", "handout", "kelas", "kuis",
    "latihan", "lembar", "materi", "modul", "pada", "pdf", "pelajaran",
    "pembelajaran", "ppt", "pptx", "ringkas", "saya", "semester", "sebuah",
    "slide", "siswa", "soal", "tentang", "untuk", "yang"]

/-! ## Entries, signals and candidates -/

/-- `TaxonomyEntry`. -/
structure TaxonomyEntry where
  catalogIndex : Nat
  jenjang : Option String := none
  subjectName : String
  subjectSlug : String
  kelas : Option Int := none
  semester : Option Int := none
  bab : Option Int := none
  subSubjectName : String
  subSubjectSlug : String
  description : String := ""
  isActive : Bool := true
  contentStructure : String := ""
  structureItems : List String := []
  normalizedSubject : String
  normalizedSubSubject : String
  deriving DecidableEq

/-- `PromptContext`. -/
structure PromptContext where
  jenjang : Option String
  kelas : Option Int
  semester : Option Int
  bab : Option Int
  deriving DecidableEq

/-- `MatchSignal`. -/
structure MatchSignal where
  subjectPhraseMatch : Bool
  subSubjectPhraseMatch : Bool
  subjectOverlap : Nat
  subSubjectOverlap : Nat
  descriptionOverlap : Nat
  structureOverlap : Nat
  jenjangMatch : Option Bool
  kelasMatch : Option Bool
  semesterMatch : Option Bool
  babMatch : Option Bool
  deriving DecidableEq

/-- `CandidateScore`. -/
structure CandidateScore where
  entry : TaxonomyEntry
  rawScore : Rat
  normalizedScore : Rat
  signal : MatchSignal
  deriving DecidableEq

/-- `ConfidenceInfo`. -/
structure ConfidenceInfo where
  score : Rat
  label : String
  subSubjectAttached : Bool
  deriving DecidableEq

/-- `BestMatch`. -/
structure BestMatch where
  jenjang : Option String
  kelas : Option Int
  semester : Option Int
  bab : Option Int
  subjectName : String
  subjectSlug : String
  subjectId : Option Int
  subSubjectName : Option String
  subSubjectSlug : Option String
  subSubjectId : Option Int
  description : String
  contentStructure : String
  structureItems : List String
  matchedSignals : List String
  deriving DecidableEq

/-- `CandidateSummary`. -/
structure CandidateSummary where
  subjectName : String
  subjectSlug : String
  subSubjectName : String
  subSubjectSlug : String
  jenjang : Option String
  kelas : Option Int
  score : Rat
  label : String
  deriving DecidableEq

/-- `TaxonomyInferenceResult`. -/
structure TaxonomyInferenceResult where
  schemaVersion : String := "media_prompt_taxonomy_inference.v1"
  source : String := "subjects.json"
  promptContext : PromptContext
  confidence : ConfidenceInfo
  bestMatch : BestMatch
  candidateMatches : List CandidateSummary
  deriving DecidableEq

/-! ## Search text -/

section

variable (C : TextClasses)

/-- Every run of other characters as one blank; `inRun` says whether one stands
before the text. -/
def blankRuns (keep : Char → Bool) : Bool → List Char → List Char
  | _, [] => []
  | inRun, c :: cs =>
    if keep c then c :: blankRuns keep false cs
    else if inRun then blankRuns keep true cs
    else ' ' :: blankRuns keep true cs

/-- `normalize_search_text`. -/
def normalizeSearchText (value : String) : String :=
  let result := String.ofList (blankRuns C.isAlphanumeric false (C.toLowercase value).toList)
  collapseWhitespace (trim result)

/-- `tokenize_search_text`. -/
def tokenizeSearchText (value : String) : List String :=
  let normalized := normalizeSearchText C value
  if normalized.isEmpty then []
  else (wordsList isWhitespace normalized.toList).map String.ofList

/-- Whether `filtered_tokens` keeps a word. -/
def isSearchWord (token : String) : Bool :=
  !(token.isEmpty || token.toList.all Char.isDigit) && !stopwords.contains token &&
    2 ≤ token.toList.length

/-- `filtered_tokens`. -/
def filteredTokens (text : String) : List String :=
  (tokenizeSearchText C text).filter isSearchWord

/-- `contains_phrase`. -/
def containsPhrase (haystack needle : String) : Bool :=
  let haystack := trim haystack
  let needle := trim needle
  if haystack.isEmpty || needle.isEmpty then false
  else Text.contains (" " ++ haystack ++ " ") (" " ++ needle ++ " ")

/-- `overlap_count`.  Of the candidate's words only a set is made. -/
def overlapCount (promptTokens candidateTokens : List String) : Nat :=
  if promptTokens.isEmpty || candidateTokens.isEmpty then 0
  else
    let deduped := candidateTokens.dedup
    promptTokens.countP fun t => deduped.contains t

/-! ## Context -/

/-- Whether a word occurs between two word boundaries; `inWord` says whether a
word character stands before the text. -/
def containsWordList (word : List Char) : Bool → List Char → Bool
  | _, [] => false
  | inWord, c :: cs =>
    (!inWord && word.isPrefixOf (c :: cs) &&
      !((c :: cs).drop word.length).head?.any C.isWordChar) ||
      containsWordList word (C.isWordChar c) cs

/-- `contains_word`, for a word of word characters. -/
def containsWord (text word : String) : Bool := containsWordList C word.toList false text.toList

/-- `detect_jenjang`. -/
def detectJenjang (text : String) : Option String :=
  let normalized := normalizeSearchText C text
  if containsWord C normalized "smk" || Text.contains normalized "sekolah menengah kejuruan" then
    some "SMK"
  else if containsWord C normalized "sma" || Text.contains normalized "sekolah menengah atas" then
    some "SMA"
  else if containsWord C normalized "smp" || Text.contains normalized "sekolah menengah pertama" then
    some "SMP"
  else if containsWord C normalized "sd" || Text.contains normalized "sekolah dasar" then some "SD"
  else none

/-- The number that follows one of the labels at the start of a text. -/
def numberHere (labels : List String) (cs : List Char) : Option (List Char) :=
  (labels.findSome? fun label => afterWord label.toList cs).bind fun rest =>
    let token := (rest.dropWhile isWhitespace).takeWhile C.isWordChar
    if rest.head?.any isWhitespace && (token.length = 1 || token.length = 2) &&
        token.all Char.isDigit then
      some token
    else none

/-- The number of the first match. -/
def firstNumber (labels : List String) : Bool → List Char → Option (List Char)
  | _, [] => none
  | inWord, c :: cs =>
    (if inWord then none else numberHere C labels (c :: cs)).or
      (firstNumber labels (C.isWordChar c) cs)

/-- `detect_number_by_label`. -/
def detectNumberByLabel (text : String) (labels : List String) : Option Int :=
  (firstNumber C labels false text.toList).bind fun token => Text.parseI64 (String.ofList token)

/-- `prompt_context`. -/
def promptContext (text : String) : PromptContext where
  jenjang := detectJenjang C text
  kelas := detectClassNumber C.isWordChar text
  semester := detectNumberByLabel C text ["semester"]
  bab := detectNumberByLabel C text ["bab", "chapter"]

/-- `matches_context`. -/
def matchesContext (promptVal entryVal : Option String) : Option Bool :=
  match promptVal, entryVal with
  | some p, some e => if p.isEmpty then none else some (C.toLowercase p == C.toLowercase e)
  | _, _ => none

end

/-- `matches_context_i64`. -/
def matchesContextI64 (promptVal entryVal : Option Int) : Option Bool :=
  match promptVal, entryVal with
  | some p, some e => some (p == e)
  | _, _ => none

/-! ## Scores -/

/-- `normalize_score`. -/
def normalizeScore (rawScore : Rat) : Rat := round4 (min 1 (max 0 (rawScore / 24)))

/-- What a comparison of contexts adds to a score. -/
def contextScore (found : Option Bool) (hit miss : Rat) : Rat :=
  match found with
  | some true => hit
  | some false => miss
  | none => 0

/-- The score of an entry with these signals, before it is rounded. -/
def rawScoreOf (ctx : PromptContext) (signal : MatchSignal) : Rat :=
  (if signal.subjectPhraseMatch then 7 else 0) +
    (if signal.subSubjectPhraseMatch then 12 else 0) +
    signal.subjectOverlap * (3 / 2) +
    signal.subSubjectOverlap * (11 / 4) +
    signal.descriptionOverlap * (3 / 4) +
    signal.structureOverlap * (7 / 20) +
    contextScore signal.jenjangMatch (9 / 2) (-6) +
    contextScore signal.kelasMatch (11 / 2) (-7) +
    contextScore signal.semesterMatch (3 / 2) (-1) +
    contextScore signal.babMatch (3 / 2) (-3 / 4) +
    (if ctx.kelas.isSome && signal.kelasMatch == some true && signal.subjectPhraseMatch then 3 / 2
      else 0) +
    (if ctx.jenjang.isSome && signal.jenjangMatch == some true && 0 < signal.subjectOverlap then 1
      else 0)

section

variable (C : TextClasses)

/-- The words of the structure items. -/
def structureTokens (entry : TaxonomyEntry) : List String :=
  (entry.structureItems.flatMap (filteredTokens C)).dedup

/-- The signals of an entry. -/
def signalOf (entry : TaxonomyEntry) (normalizedPrompt : String) (promptTokens : List String)
    (ctx : PromptContext) : MatchSignal where
  subjectPhraseMatch := containsPhrase normalizedPrompt entry.normalizedSubject
  subSubjectPhraseMatch := containsPhrase normalizedPrompt entry.normalizedSubSubject
  subjectOverlap := overlapCount promptTokens (filteredTokens C entry.subjectName)
  subSubjectOverlap := overlapCount promptTokens (filteredTokens C entry.subSubjectName)
  descriptionOverlap := min 4 (overlapCount promptTokens (filteredTokens C entry.description))
  structureOverlap := min 3 (overlapCount promptTokens (structureTokens C entry))
  jenjangMatch := matchesContext C ctx.jenjang entry.jenjang
  kelasMatch := matchesContextI64 ctx.kelas entry.kelas
  semesterMatch := matchesContextI64 ctx.semester entry.semester
  babMatch := matchesContextI64 ctx.bab entry.bab

/-- `score_entry`. -/
def scoreEntry (normalizedPrompt : String) (promptTokens : List String) (ctx : PromptContext)
    (entry : TaxonomyEntry) : CandidateScore :=
  let signal := signalOf C entry normalizedPrompt promptTokens ctx
  let rawScore := max 0 (round4 (rawScoreOf ctx signal))
  { entry, rawScore, normalizedScore := normalizeScore rawScore, signal }

end

/-- `confidence_label`. -/
def confidenceLabel (score : Rat) : String :=
  if 3 / 4 ≤ score then "high" else if 9 / 20 ≤ score then "medium" else "low"

/-- `matched_signals`. -/
def matchedSignals (signal : MatchSignal) : List String :=
  (if signal.subjectPhraseMatch then ["subject_phrase"] else []) ++
    (if signal.subSubjectPhraseMatch then ["sub_subject_phrase"] else []) ++
    (if 0 < signal.subjectOverlap then ["subject_tokens"] else []) ++
    (if 0 < signal.subSubjectOverlap then ["sub_subject_tokens"] else []) ++
    (if 0 < signal.descriptionOverlap then ["description_tokens"] else []) ++
    (if 0 < signal.structureOverlap then ["content_structure"] else []) ++
    (if signal.jenjangMatch = some true then ["jenjang"] else []) ++
    (if signal.kelasMatch = some true then ["kelas"] else []) ++
    (if signal.semesterMatch = some true then ["semester"] else []) ++
    (if signal.babMatch = some true then ["bab"] else [])

/-- `should_attach_sub_subject`. -/
def shouldAttachSubSubject (best : CandidateScore) (runnerUp : Option CandidateScore) : Bool :=
  let signal := best.signal
  if signal.subSubjectPhraseMatch then true
  else if 2 ≤ signal.subSubjectOverlap || 2 ≤ signal.descriptionOverlap then true
  else if signal.semesterMatch == some true || signal.babMatch == some true then true
  else if !signal.subjectPhraseMatch && signal.subjectOverlap == 0 then false
  else
    match runnerUp with
    | none => false
    | some runnerUp =>
      7 / 10 ≤ best.normalizedScore && 3 ≤ best.rawScore - runnerUp.rawScore &&
        best.entry.subjectSlug != runnerUp.entry.subjectSlug

/-! ## Inference -/

/-- The comparison of `sort_by`: the higher score first, then the lower index. -/
def compareCandidates (a b : CandidateScore) : Ordering :=
  (compare b.rawScore a.rawScore).then (compare a.entry.catalogIndex b.entry.catalogIndex)

/-- An element of `candidate_matches`. -/
def summaryOf (c : CandidateScore) : CandidateSummary where
  subjectName := c.entry.subjectName
  subjectSlug := c.entry.subjectSlug
  subSubjectName := c.entry.subSubjectName
  subSubjectSlug := c.entry.subSubjectSlug
  jenjang := c.entry.jenjang
  kelas := c.entry.kelas
  score := c.normalizedScore
  label := confidenceLabel c.normalizedScore

/-- The best match, by the entry whose subject it names. -/
def bestMatchOf (best bestSubject : CandidateScore) (includeSubSubject : Bool) : BestMatch where
  jenjang := best.entry.jenjang
  kelas := best.entry.kelas
  semester := best.entry.semester
  bab := best.entry.bab
  subjectName := bestSubject.entry.subjectName
  subjectSlug := bestSubject.entry.subjectSlug
  subjectId := none
  subSubjectName := if includeSubSubject then some best.entry.subSubjectName else none
  subSubjectSlug := if includeSubSubject then some best.entry.subSubjectSlug else none
  subSubjectId := none
  description := best.entry.description
  contentStructure := best.entry.contentStructure
  structureItems := best.entry.structureItems
  matchedSignals := matchedSignals best.signal

/-- What `infer` makes of the candidates that are left. -/
def inferFrom (ctx : PromptContext) (candidates : List CandidateScore) :
    Option TaxonomyInferenceResult :=
  let ranked := sortBy compareCandidates candidates
  match ranked with
  | [] => none
  | best :: others =>
    if best.normalizedScore < 1 / 4 && !best.signal.subjectPhraseMatch &&
        !best.signal.subSubjectPhraseMatch then
      none
    else
      let bestSubject :=
        (ranked.find? fun c => c.entry.subjectSlug == best.entry.subjectSlug).getD best
      let includeSubSubject := shouldAttachSubSubject best others.head?
      some {
        promptContext := ctx
        confidence := {
          score := best.normalizedScore
          label := confidenceLabel best.normalizedScore
          subSubjectAttached := includeSubSubject }
        bestMatch := bestMatchOf best bestSubject includeSubSubject
        candidateMatches := (ranked.take 3).map summaryOf }

section

variable (C : TextClasses) (entries : List TaxonomyEntry)

/-- The entries that score above zero, in the order of the catalog. -/
def candidatesOf (prompt : String) : List CandidateScore :=
  (entries.map (scoreEntry C (normalizeSearchText C prompt) (filteredTokens C prompt)
    (promptContext C prompt))).filter fun c => 0 < c.rawScore

/-- `infer`. -/
def infer (teacherPrompt : String) : Option TaxonomyInferenceResult :=
  let prompt := trim teacherPrompt
  if prompt.isEmpty then none
  else inferFrom (promptContext C prompt) (candidatesOf C entries prompt)

end

end KlassGateway.Recommendation
