import KlassGateway.Orchestrator.Fingerprint
/-!
# The output type decision

Model of the pure functions of `orchestrator/decision.rs` up to
`build_ranking_reasoning`: `decide` and what it calls.  Scores are rationals,
which is how the decimal weights and the four-digit rounding read.

The candidates sit in a hash map in the source and are then sorted.  Here they
are a list in the order of `ALLOWED_FORMATS`; scores are multiples of the
rounding unit, so the comparison is a total order and the start order does not
matter.
-/

namespace KlassGateway.Orchestrator

open Lib

variable (P : Platform)

/-- `VERSION` of the decision payload. -/
def decisionVersion : String := "media_output_decision.v1"

/-- `ALLOWED_FORMATS`. -/
def allowedFormats : List String := ["docx", "pdf", "pptx"]

/-- `type_priority`: the lower number wins a tie. -/
def typePriority (format : String) : Int :=
  if format = "pptx" then 0
  else if format = "pdf" then 1
  else if format = "docx" then 2
  else 2147483647

/-- `KeywordSignalDef`. -/
structure KeywordSignalDef where
  outputType : String
  weight : Rat
  reasonCode : String
  keywords : List String

/-- `KEYWORD_SIGNALS`. -/
def keywordSignalDefs : List KeywordSignalDef :=
  [{ outputType := "pptx"
     weight := 35 / 100
     reasonCode := "slide_intent_detected"
     keywords := ["slide", "slides", "deck", "presentasi", "presentation", "slideshow", "ppt",
       "pptx"] },
   { outputType := "pdf"
     weight := 25 / 100
     reasonCode := "printable_intent_detected"
     keywords := ["handout", "printable", "print", "cetak", "pdf", "booklet"] },
   { outputType := "docx"
     weight := 25 / 100
     reasonCode := "editable_document_intent_detected"
     keywords := ["editable", "edit", "docx", "word", "worksheet", "lembar kerja", "template"] }]

/-- `MatchedSignal`. -/
structure MatchedSignal where
  outputType : String
  reasonCode : String
  weight : Rat
  matchedKeyword : Option String
  reason : String

/-- `RankedCandidate`. -/
structure RankedCandidate where
  outputType : String
  score : Rat := 0
  candidateScore : Rat := 0
  reasonCode : String := "highest_candidate_score"
  matchedSignals : List MatchedSignal := []
  reasons : List String := []
  deriving Inhabited

/-- `DecisionOutput`. -/
structure DecisionOutput where
  schemaVersion : String := decisionVersion
  preferredOutputType : String
  constraintPreferredOutputType : String
  resolvedOutputType : String
  decisionSource : String
  reasonCode : String
  reasoning : String
  rankedCandidates : List RankedCandidate
  tieBreakerApplied : Bool
  resolvedAt : String

/-! ## Numbers -/

/-- `f64::round`: half away from zero. -/
def roundHalfAway (q : Rat) : Int :=
  if 0 ≤ q then (q + 1 / 2).floor else -(-q + 1 / 2).floor

/-- Round to four decimals. -/
def round4 (q : Rat) : Rat := roundHalfAway (q * 10000) / 10000

/-- `{:.4}`. -/
def format4 (q : Rat) : String :=
  let n := (roundHalfAway (q * 10000)).natAbs
  let digits := toString (n % 10000)
  (if q < 0 then "-" else "") ++ toString (n / 10000) ++ "." ++
    String.ofList (List.replicate (4 - digits.length) '0') ++ digits

/-! ## Keyword signals -/

/-- The text at a path of object keys. -/
def strAt (v : Json) (path : List String) : Option String := (v.pointer path).bind Json.asStr

/-- The array at a path of object keys. -/
def arrayAt (v : Json) (path : List String) : Option (List Json) :=
  (v.pointer path).bind Json.asArray

/-- The lower-cased text at a path, unless it is blank. -/
def haystackText (v : Json) (path : List String) : List String :=
  match strAt v path with
  | some s => if Text.trim s = "" then [] else [P.toLowercase s]
  | none => []

/-- The lower-cased texts of a section of the blueprint. -/
def sectionTexts (s : Json) : List String :=
  (strAt s ["title"]).toList.map P.toLowercase ++
    (strAt s ["purpose"]).toList.map P.toLowercase ++
    ((arrayAt s ["bullets"]).getD []).filterMap fun b => b.asStr.map P.toLowercase

/-- `decision_haystack`. -/
def decisionHaystack (interpretation : Json) : String :=
  " ".intercalate <|
    haystackText P interpretation ["teacher_prompt"] ++
    haystackText P interpretation ["teacher_intent", "goal"] ++
    haystackText P interpretation ["resolved_output_type_reasoning"] ++
    haystackText P interpretation ["document_blueprint", "title"] ++
    haystackText P interpretation ["document_blueprint", "summary"] ++
    ((arrayAt interpretation ["document_blueprint", "sections"]).getD []).flatMap
      (sectionTexts P) ++
    ((arrayAt interpretation ["requested_media_characteristics", "format_preferences"]).getD
      []).filterMap fun p => p.asStr.map P.toLowercase

/-- `format_type_label`. -/
def formatTypeLabel (formatType : String) : String :=
  if formatType = "pptx" then "slide deck or presentation"
  else if formatType = "pdf" then "stable printable document"
  else if formatType = "docx" then "editable document"
  else "document"

/-- The first keyword of a definition that occurs in the haystack. -/
def matchSignal (haystack : String) (d : KeywordSignalDef) : Option MatchedSignal :=
  (d.keywords.find? fun k => Text.contains haystack k).map fun keyword =>
    { outputType := d.outputType
      reasonCode := d.reasonCode
      weight := d.weight
      matchedKeyword := some keyword
      reason := "Keyword \"" ++ keyword ++ "\" indicates a " ++ formatTypeLabel d.outputType ++
        " format." }

/-- The bonus for a high visual density with explicit assets. -/
def visualDensitySignal : MatchedSignal where
  outputType := "pptx"
  reasonCode := "visual_density_signal"
  weight := 12 / 100
  matchedKeyword := none
  reason := "High visual density with explicit assets favors slide-oriented output."

/-- `keyword_signals`. -/
def keywordSignals (interpretation : Json) : List MatchedSignal :=
  let haystack := P.toLowercase (decisionHaystack P interpretation)
  let visualDensity := strAt interpretation ["requested_media_characteristics", "visual_density"]
  let hasAssets := ((arrayAt interpretation ["assets"]).getD []) matches _ :: _
  keywordSignalDefs.filterMap (matchSignal haystack) ++
    if visualDensity = some "high" ∧ hasAssets then [visualDensitySignal] else []

/-! ## Ranking -/

/-- Change the entry of a format. -/
def modifyCandidate (format : String) (f : RankedCandidate → RankedCandidate)
    (scores : List RankedCandidate) : List RankedCandidate :=
  scores.map fun c => if c.outputType = format then f c else c

/-- Add a candidate score of the interpretation. -/
def addCandidateScore (scores : List RankedCandidate) (candidate : Json) :
    List RankedCandidate :=
  let ctype := (strAt candidate ["type"]).getD ""
  let cscore := ((candidate.get "score").bind Json.asF64).getD 0
  let reason := (strAt candidate ["reason"]).getD ""
  let rounded := round4 cscore
  modifyCandidate ctype (fun c => { c with
    score := c.score + rounded
    candidateScore := rounded
    reasons := c.reasons ++ ["LLM candidate score " ++ format4 rounded ++ ": " ++ reason] }) scores

/-- Add a matched signal. -/
def addSignal (scores : List RankedCandidate) (s : MatchedSignal) : List RankedCandidate :=
  modifyCandidate s.outputType (fun c => { c with
    score := c.score + s.weight
    reasonCode := s.reasonCode
    matchedSignals := c.matchedSignals ++ [s]
    reasons := c.reasons ++ [s.reason] }) scores

/-- `(a.score - b.score).abs()`. -/
def scoreGap (a b : RankedCandidate) : Rat :=
  if b.score ≤ a.score then a.score - b.score else b.score - a.score

/-- The comparison of the sort: the higher score first, a tie by priority. -/
def ranksBefore (a b : RankedCandidate) : Bool :=
  if 1 / 10000 ≤ scoreGap a b then decide (b.score < a.score)
  else typePriority a.outputType ≤ typePriority b.outputType

/-- Insert into a sorted list. -/
def insertRanked (c : RankedCandidate) : List RankedCandidate → List RankedCandidate
  | [] => [c]
  | d :: ds => if ranksBefore c d then c :: d :: ds else d :: insertRanked c ds

/-- `rank_candidates`. -/
def rankCandidates (interpretation : Json) : List RankedCandidate :=
  let scores := allowedFormats.map fun fmt => ({ outputType := fmt } : RankedCandidate)
  let scores := ((arrayAt interpretation ["output_type_candidates"]).getD []).foldl
    addCandidateScore scores
  let scores := (keywordSignals P interpretation).foldl addSignal scores
  (scores.foldr insertRanked []).map fun c => { c with score := round4 c.score }

/-- `build_ranking_reasoning`. -/
def buildRankingReasoning (selected : RankedCandidate) (runnerUp : Option RankedCandidate)
    (tieBreakerApplied : Bool) (interpretationReasoning : String) : String :=
  Text.trim <|
    "Auto resolution selected " ++ P.toUppercase selected.outputType ++ " with score " ++
      format4 selected.score ++ ". " ++ " ".intercalate (selected.reasons.take 2) ++
    (match runnerUp with
      | some runner => " Runner-up was " ++ P.toUppercase runner.outputType ++ " at score " ++
          format4 runner.score ++ "."
      | none => "") ++
    (if tieBreakerApplied then
        " Scores tied, so the deterministic priority order PDF > DOCX > PPTX was applied."
      else "") ++
    (if Text.trim interpretationReasoning = "" then ""
      else " " ++ Text.trim interpretationReasoning)

/-! ## The decision -/

/-- `decide`: teacher override, interpretation constraint, ranking. -/
def decideOutput (interpretation : Json) (preferredOutputType : Option String)
    (now : DateTime) : DecisionOutput :=
  let normalizedPreferred := normalizePreferredOutputType P preferredOutputType
  let constraintPreferred := normalizePreferredOutputType P
    (strAt interpretation ["constraints", "preferred_output_type"])
  let ranked := rankCandidates P interpretation
  let build (resolved source reasonCode reasoning : String) (tie : Bool) : DecisionOutput :=
    { preferredOutputType := normalizedPreferred
      constraintPreferredOutputType := constraintPreferred
      resolvedOutputType := resolved
      decisionSource := source
      reasonCode := reasonCode
      reasoning := reasoning
      rankedCandidates := ranked
      tieBreakerApplied := tie
      resolvedAt := P.rfc3339Millis now }
  if normalizedPreferred ≠ "auto" then
    build normalizedPreferred "teacher_override" "teacher_override"
      ("Teacher override selected " ++ P.toUppercase normalizedPreferred ++
        ", so automatic classification was bypassed.") false
  else if constraintPreferred ≠ "auto" then
    build constraintPreferred "interpretation_constraint" "interpretation_constraint"
      ("Interpretation payload explicitly constrained the output to " ++
        P.toUppercase constraintPreferred ++ ".") false
  else
    -- `ranked` has one entry for each allowed format.
    let selected := ranked.headD default
    let runnerUp := ranked[1]?
    let tie := runnerUp.elim false fun r => scoreGap selected r < 1 / 10000
    build selected.outputType "candidate_ranking" selected.reasonCode
      (buildRankingReasoning P selected runnerUp tie
        ((strAt interpretation ["resolved_output_type_reasoning"]).getD "")) tie

/-! ## Serialisation -/

namespace MatchedSignal

/-- `serde_json::to_value`. -/
def toJson (s : MatchedSignal) : Json :=
  .obj [("type", s.outputType), ("reason_code", s.reasonCode), ("weight", .num (.float s.weight)),
    ("matched_keyword", Json.ofOption .str s.matchedKeyword), ("reason", s.reason)]

end MatchedSignal

namespace RankedCandidate

/-- `serde_json::to_value`. -/
def toJson (c : RankedCandidate) : Json :=
  .obj [("type", c.outputType), ("score", .num (.float c.score)),
    ("candidate_score", .num (.float c.candidateScore)), ("reason_code", c.reasonCode),
    ("matched_signals", .arr (c.matchedSignals.map MatchedSignal.toJson)),
    ("reasons", .arr (c.reasons.map .str))]

end RankedCandidate

namespace DecisionOutput

/-- `serde_json::to_value`. -/
def toJson (d : DecisionOutput) : Json :=
  .obj [("schema_version", d.schemaVersion), ("preferred_output_type", d.preferredOutputType),
    ("constraint_preferred_output_type", d.constraintPreferredOutputType),
    ("resolved_output_type", d.resolvedOutputType), ("decision_source", d.decisionSource),
    ("reason_code", d.reasonCode), ("reasoning", d.reasoning),
    ("ranked_candidates", .arr (d.rankedCandidates.map RankedCandidate.toJson)),
    ("tie_breaker_applied", d.tieBreakerApplied), ("resolved_at", d.resolvedAt)]

end DecisionOutput

end KlassGateway.Orchestrator
