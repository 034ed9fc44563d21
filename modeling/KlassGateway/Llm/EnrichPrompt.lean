import KlassGateway.Llm.Clarification
/-!
# Enriched prompts

Model of `ClarificationService::enrich_prompt` in `llm/clarification.rs`: the
clauses that the answers add to a prompt, and the clean-up of the result.

Every clause is left out where the prompt seems to say the same already.  The
tests for that work on the lower-cased prompt.
-/

namespace KlassGateway.Llm

open Lib Standards

variable (P : Platform)

/-! ## What the prompt says already -/

/-- `contains_all_tokens`. -/
def containsAllTokens (haystack needle : String) : Bool :=
  let words := tokens (P.toLowercase (spaced needle))
  !words.isEmpty && words.all (Text.contains haystack)

/-- `prompt_has_quantity`. -/
def promptHasQuantity (haystack : String) (unitSynonyms : List String) : Bool :=
  haystack.toList.any Char.isDigit &&
    unitSynonyms.any fun syn => Text.contains haystack (P.toLowercase syn)

/-- Whether a format is mentioned. -/
def hasFormat (hLower output : String) : Bool :=
  let lowered := P.toLowercase output
  if lowered = "pptx" then
    ["ppt", "pptx", "powerpoint", "slide", "slides", "presentasi", "presentation",
      "slideshow"].any (Text.contains hLower)
  else if lowered = "pdf" then ["pdf", "dokumen pdf"].any (Text.contains hLower)
  else if lowered = "docx" then
    ["docx", "doc", "word", "dokumen word", "lembar kerja"].any (Text.contains hLower)
  else Text.contains hLower lowered

/-- The wording of an amount that was chosen from a list. -/
def amountLabel (short medium long amount : String) : String :=
  if amount = "short" then short
  else if amount = "medium" then medium
  else if amount = "long" then long
  else amount

/-! ## Clauses -/

/-- The clause for an answer, unless the prompt says it already. -/
def clauseUnless (mentioned : Bool) (clause : String) : Option String :=
  if mentioned then none else some clause

variable (hLower : String) (answers : Answers)

/-- The target audience. -/
def audienceClause : Option String :=
  (answers "target_audience").bind fun audience =>
    clauseUnless (containsAllTokens P hLower (spaced audience))
      ("untuk jenjang " ++ spaced audience)

/-- The output type. -/
def outputTypeClause : Option String :=
  (answers "output_type").bind fun output =>
    clauseUnless (hasFormat P hLower output) ("dalam format " ++ P.toUppercase output)

/-- The page count. -/
def pageCountClause : Option String :=
  (answers "page_count").bind fun pages =>
    clauseUnless
      (promptHasQuantity P hLower ["halaman", "hal", "page", "pages", "pg", "pgs"])
      ("sebanyak " ++ amountLabel "2-3 halaman" "5-7 halaman" "10+ halaman" pages)

/-- The slide count. -/
def slideCountClause : Option String :=
  (answers "slide_count").bind fun slides =>
    clauseUnless
      (promptHasQuantity P hLower
        ["slide", "slides", "halaman", "hal", "ppt", "pptx", "deck", "presentasi"])
      ("sebanyak " ++ amountLabel "8-10 slide" "15-20 slide" "25+ slide" slides)

/-- The learning objectives. -/
def objectivesClause : Option String :=
  (answers "learning_objectives").bind fun objectives =>
    if Text.trim objectives = "" then none
    else
      clauseUnless (Text.contains hLower (P.toLowercase (Text.trim objectives)))
        ("dengan tujuan pembelajaran: " ++ Text.trim objectives)

/-- The difficulty level. -/
def difficultyClause : Option String :=
  (answers "difficulty_level").bind fun difficulty =>
    clauseUnless (Text.contains hLower (P.toLowercase difficulty))
      ("tingkat kesulitan " ++ difficulty)

/-- The question count. -/
def questionCountClause : Option String :=
  (answers "question_count").bind fun count =>
    clauseUnless
      (promptHasQuantity P hLower
        ["soal", "pertanyaan", "kuis", "quiz", "question", "questions"])
      ("dengan " ++ count ++ " soal")

/-- The teaching method. -/
def methodClause : Option String :=
  (answers "teaching_method").bind fun method =>
    clauseUnless (Text.contains hLower (P.toLowercase (spaced method)))
      ("dengan metode " ++ spaced method)

/-- The activities. -/
def activitiesClause : Option String :=
  (answers "include_activities").bind fun activities =>
    if activities = "yes" then
      clauseUnless
        (["latihan", "soal", "kuis", "aktivitas", "activity", "exercise", "quiz"].any
          (Text.contains hLower))
        "sertakan latihan/soal"
    else none

/-- The clauses that are appended, in order. -/
def clauses : List String :=
  [audienceClause P hLower answers, outputTypeClause P hLower answers,
    pageCountClause P hLower answers, slideCountClause P hLower answers,
    objectivesClause P hLower answers, difficultyClause P hLower answers,
    questionCountClause P hLower answers, methodClause P hLower answers,
    activitiesClause hLower answers].filterMap id

/-! ## Slides -/

/-- The line of a slide. -/
def slideLine (i : Nat) (content : String) : String :=
  "Slide " ++ toString i ++ ": " ++ content

/-- The content of a slide, unless it is blank. -/
def slideContent (i : Nat) : Option String :=
  match answers ("slide_" ++ toString i) with
  | some content => if Text.trim content = "" then none else some content
  | none =>
    (answers ("slide_" ++ toString i ++ "_content")).filter fun content => Text.trim content ≠ ""

/-- The slides with their contents, for the numbers from 1 to 20. -/
def slideEntries : List (Nat × String) :=
  (List.range' 1 20).filterMap fun i => (slideContent answers i).map fun content => (i, content)

/-- `slide_contents`. -/
def slideContents : List String :=
  (slideEntries answers).map fun (i, content) => slideLine i content

/-! ## The result -/

/-- The parts joined together: the clauses after commas, the slides in a
sentence of their own. -/
def joinParts (raw : String) (clauses slides : List String) : String :=
  raw ++ (if clauses.isEmpty then "" else ", " ++ ", ".intercalate clauses) ++
    if slides.isEmpty then ""
    else ". " ++ ("Rincian isi per slide:\n" ++ "\n".intercalate slides)

/-- The clean-up of doubled punctuation. -/
def cleanUp (s : String) : String :=
  Text.replace (Text.replace (Text.replace s ", ," ",") ",." ".") ".." "."

/-- `ClarificationService::enrich_prompt`. -/
def enrichPrompt (rawPrompt : String) : String :=
  let raw := Text.trim rawPrompt
  cleanUp (joinParts raw (clauses P (P.toLowercase raw) answers) (slideContents answers))

end KlassGateway.Llm
