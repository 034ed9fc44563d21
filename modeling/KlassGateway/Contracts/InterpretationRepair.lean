import KlassGateway.Contracts.InterpretationCodec
/-!
# The repair of an interpretation

Model of `repair_interpretation_json` on the object of the completion, step by
step, and of `decode_and_validate`.

* A step changes the value under one key with `alterField`; only a blueprint
  under another name moves between keys.
* `orDefault` and `orDefaultText` are the tests for a missing value that the
  steps repeat.
-/

namespace KlassGateway.Contracts.PromptInterpretation

open Lib Lib.Json

/-- `serde_json::Map`. -/
abbrev Fields := List (String × Json)

variable (P : ContractPlatform)

/-! ## Values that are missing -/

/-- Missing or null. -/
def isMissing : Option Json → Bool
  | none => true
  | some .null => true
  | _ => false

/-- Missing, null or the empty text. -/
def isMissingOrEmpty : Option Json → Bool
  | none => true
  | some .null => true
  | some (.str s) => s = ""
  | _ => false

/-- A default in place of a missing value. -/
def orDefault (default : Json) (v : Option Json) : Option Json :=
  if isMissing v then some default else v

/-- A default in place of a missing or empty value. -/
def orDefaultText (default : Json) (v : Option Json) : Option Json :=
  if isMissingOrEmpty v then some default else v

/-- Change an object in place; other values stay. -/
def inObject (f : Fields → Fields) : Json → Json
  | .obj fields => .obj (f fields)
  | v => v

/-- A text under a key of an object. -/
def textAt (key : String) (fields : Fields) : Option String := (lookup key fields).bind asStr

/-- The text of the first value of an object. -/
def firstText (fields : Fields) : Option String := (fields.head?.map Prod.snd).bind asStr

/-! ## Output types -/

/-- `normalize_output_type`. -/
def normalizeOutputType (raw : String) : String :=
  let r := P.toLowercase raw
  if r = "pdf" then "pdf"
  else if r ∈ ["docx", "doc", "word"] then "docx"
  else if r ∈ ["pptx", "ppt", "powerpoint", "slide", "slides"] then "pptx"
  else "pdf"

/-- A candidate as the repair writes it. -/
def candidate (type : String) (score : Rat) (reason : String) : Json :=
  .obj [("type", type), ("score", .num (.float score)), ("reason", reason)]

/-- `normalize_output_type_candidates_string`. -/
def normalizeOutputTypeCandidatesString (s : String) : Json :=
  let primary := normalizeOutputType P s
  let others :=
    if primary = "pdf" then ("docx", "pptx")
    else if primary = "docx" then ("pdf", "pptx")
    else ("pdf", "docx")
  .arr [candidate primary (82 / 100) ("LLM suggested " ++ primary ++ "."),
    candidate others.1 (64 / 100) ("Alternative " ++ others.1 ++ "."),
    candidate others.2 (46 / 100) ("Alternative " ++ others.2 ++ ".")]

/-- `normalize_output_type_candidates_object`. -/
def normalizeOutputTypeCandidatesObject (fields : Fields) : Json :=
  let primary := (((firstOf ["preferred", "type", "format"] fields).bind asStr).map
    (normalizeOutputType P)).getD "pdf"
  normalizeOutputTypeCandidatesString P primary

/-- An element of the candidates. -/
def repairCandidate : Json → Json
  | .str s => candidate (normalizeOutputType P s) (7 / 10) ("LLM suggested " ++ s ++ ".")
  | .obj fields =>
    candidate (normalizeOutputType P ((textAt "type" fields).getD "pdf"))
      (((lookup "score" fields).bind asF64).getD (7 / 10))
      ((textAt "reason" fields).getD "LLM candidate.")
  | other => other

/-- The candidates of an interpretation that has none. -/
def defaultCandidates : Json :=
  .arr [candidate "pdf" (82 / 100) "Default PDF candidate.",
    candidate "docx" (64 / 100) "Default DOCX candidate.",
    candidate "pptx" (46 / 100) "Default PPTX candidate."]

/-- Step 2: `output_type_candidates`. -/
def repairCandidates : Option Json → Option Json
  | some (.str s) => some (normalizeOutputTypeCandidatesString P s)
  | some (.obj fields) => some (normalizeOutputTypeCandidatesObject P fields)
  | some (.arr items) => some (.arr (items.map (repairCandidate P)))
  | some v => some v
  | none => some defaultCandidates

/-- Step 3: a duration that is a text. -/
def repairDuration : Option Json → Option Json
  | some (.str s) =>
    ((Text.parseI64 s).filter fun n => -(2 ^ 31) ≤ n ∧ n < 2 ^ 31).map fun n => .num (.int n)
  | v => v

/-! ## The blueprint -/

/-- A section with one bullet. -/
def oneBulletSection (title purpose bullet : String) : Json :=
  .obj [("title", title), ("purpose", purpose), ("bullets", .arr [bullet]),
    ("estimated_length", "medium")]

/-- The section that stands in for missing ones. -/
def requestedSection (teacherPrompt : String) : Json :=
  oneBulletSection "Requested Content" "Deliver the requested learning material."
    (truncateStr teacherPrompt 300)

/-- A blueprint that is a text. -/
def blueprintOfText (s : String) : Json :=
  .obj [("title", truncateStr s 200), ("summary", truncateStr s 1000),
    ("sections", .arr [oneBulletSection "Requested Content" (truncateStr s 500) (truncateStr s 300)])]

/-- The blueprint of an interpretation that has none. -/
def defaultBlueprint (teacherPrompt : String) : Json :=
  .obj [("title", truncateStr teacherPrompt 200), ("summary", truncateStr teacherPrompt 1000),
    ("sections", .arr [requestedSection teacherPrompt])]

/-- A blueprint that is a text, as an object. -/
def textBlueprint : Option Json → Option Json
  | some (.str s) => some (blueprintOfText s)
  | v => v

/-- A missing blueprint is taken from `blueprint` or `document`, or made from
the prompt. -/
def findBlueprint (teacherPrompt : String) (obj : Fields) : Fields :=
  if isMissing (lookup "document_blueprint" obj) then
    match lookup "blueprint" obj, lookup "document" obj with
    | some bp, _ => insertField "document_blueprint" bp (removeField "blueprint" obj)
    | none, some bp => insertField "document_blueprint" bp (removeField "document" obj)
    | none, none => insertField "document_blueprint" (defaultBlueprint teacherPrompt) obj
  else obj

/-- A bullet that is a text or an object with a text. -/
def bulletText : Json → Option String
  | .str s => if s = "" then none else some s
  | .obj fields => firstText fields
  | _ => none

/-- The bullets of a section, or its purpose. -/
def repairBullets (bullets : Option Json) (purpose : String) : List String :=
  let texts :=
    match bullets with
    | some (.str s) => if s = "" then [] else [s]
    | some (.arr items) => items.filterMap bulletText
    | _ => []
  if texts.isEmpty then [purpose] else texts

/-- A text under a key, or a default where it is missing, empty or no text. -/
def nonEmptyTextAt (key default : String) (fields : Fields) : String :=
  ((textAt key fields).filter fun s => s ≠ "").getD default

/-- `repair_section`. -/
def repairSection : Json → Json
  | .str s => oneBulletSection (truncateStr s 200) (truncateStr s 500) (truncateStr s 300)
  | .obj fields =>
    let purpose := nonEmptyTextAt "purpose" "Section content" fields
    .obj [("title", truncateStr (nonEmptyTextAt "title" "Untitled Section" fields) 200),
      ("purpose", truncateStr purpose 500),
      ("bullets", textArray (repairBullets (lookup "bullets" fields) purpose)),
      ("estimated_length", (textAt "estimated_length" fields).getD "medium")]
  | v => v

/-- The sections of a blueprint. -/
def repairSections (teacherPrompt : String) (sections : Option Json) : Option Json :=
  match sections.bind asArray with
  | some (s :: ss) => some (.arr ((s :: ss).map repairSection))
  | _ => some (.arr [requestedSection teacherPrompt])

/-- The fields of a blueprint that is an object. -/
def repairBlueprint (teacherPrompt : String) (bp : Fields) : Fields :=
  alterField "sections" (repairSections teacherPrompt) <|
    alterField "summary" (orDefaultText (truncateStr teacherPrompt 1000)) <|
      alterField "title" (orDefaultText (truncateStr teacherPrompt 200)) bp

/-! ## Intent, constraints and confidence -/

/-- The fields of a teacher intent that is an object. -/
def repairIntent (teacherPrompt : String) (m : Fields) : Fields :=
  alterField "requires_clarification" (orDefault false) <|
    alterField "preferred_delivery_mode" (orDefaultText "digital_download") <|
      alterField "goal" (orDefaultText (truncateStr teacherPrompt 500)) <|
        alterField "type" (orDefaultText "generate_learning_media") m

/-- The intent of an interpretation that has none. -/
def defaultIntent (teacherPrompt : String) : Json :=
  .obj [("type", "generate_learning_media"), ("goal", truncateStr teacherPrompt 500),
    ("preferred_delivery_mode", "digital_download"), ("requires_clarification", false)]

/-- Step 4: `teacher_intent`. -/
def repairTeacherIntent (teacherPrompt : String) : Option Json → Option Json
  | some v => some (inObject (repairIntent teacherPrompt) v)
  | none => some (defaultIntent teacherPrompt)

/-- Step 5: `constraints`. -/
def repairConstraints : Option Json → Option Json
  | some v =>
    some (inObject (alterField "preferred_output_type" (orDefaultText "auto")) v)
  | none => some (.obj [("preferred_output_type", "auto")])

/-- `score >= bound`. -/
def F64.geq : F64 → Rat → Bool
  | .finite q, bound => bound ≤ q
  | .infinite negative, _ => !negative
  | .nan, _ => false

/-- The label of a score. -/
def scoreLabel (score : F64) : String :=
  if F64.geq score (8 / 10) then "high" else if F64.geq score (5 / 10) then "medium" else "low"

/-- The score of a label. -/
def labelScore (label : String) : F64 :=
  if label = "high" ∨ label = "very high" then .finite (9 / 10)
  else if label = "medium" ∨ label = "moderate" then .finite (6 / 10)
  else if label = "low" ∨ label = "very low" then .finite (3 / 10)
  else .finite (6 / 10)

/-- A number that may be given as a text, or a default. -/
def repairScore (default : Rat) (v : Option Json) : Option Json :=
  match v with
  | some (.str s) => some ((P.parseF64 s).getD (.finite default)).toJson
  | v => orDefault (.num (.float default)) v

/-- The fields of a confidence that is an object. -/
def repairConfidenceFields (m : Fields) : Fields :=
  alterField "score" (repairScore P (6 / 10)) <| alterField "label" (orDefaultText "medium") m

/-- The score and the label of a confidence that is no object. -/
def scalarConfidence : Json → F64 × String
  | .num n => (.finite n.toRat, scoreLabel (.finite n.toRat))
  | .str s =>
    match P.parseF64 (Text.trim s) with
    | some n => (n, scoreLabel n)
    | none =>
      let label := P.toLowercase (Text.trim s)
      (labelScore label, if label = "" then "medium" else label)
  | _ => (.finite (6 / 10), "medium")

/-- Step 6: `confidence`. -/
def repairConfidence : Option Json → Option Json
  | none => some (.obj [("score", .num (.float (6 / 10))), ("label", "medium")])
  | some (.obj m) => some (.obj (repairConfidenceFields P m))
  | some v =>
    let (score, label) := scalarConfidence P v
    some (.obj [("score", score.toJson), ("label", label)])

/-! ## Lists and optional records -/

/-- The fields of a content integrity that is an object. -/
def repairIntegrity (m : Fields) : Fields :=
  alterField "classification_source" (orDefaultText "llm_interpret") <|
    alterField "integrity_score" (repairScore P (8 / 10)) m

/-- The flag of an asset. -/
def repairRequired (v : Option Json) : Option Json :=
  match v with
  | some (.str s) => some (.bool (P.toLowercase s == "true"))
  | v => orDefault true v

/-- Change the elements of an array; other values stay. -/
def inArray (f : Json → Json) : Json → Json
  | .arr items => .arr (items.map f)
  | v => v

/-- Step 11: `assets`. -/
def repairAssets : Json → Json := inArray (inObject (alterField "required" (repairRequired P)))

/-- Step 12: `learning_objectives`. -/
def repairObjectives (v : Option Json) : Option Json :=
  match v with
  | some (.arr items) => some (textArray (items.map P.objectiveText))
  | v => orDefault (.arr []) v

/-- A missing field with its required properties, unless its id or its question
is empty. -/
def repairMissingField : Json → Option Json
  | .obj m =>
    let fieldId := (textAt "field_id" m).getD ""
    let question := (textAt "question" m).getD ""
    if fieldId = "" ∨ question = "" then none
    else some (.obj [("field_id", fieldId),
      ("field_label", .str ((textAt "field_label" m).getD fieldId)),
      ("priority", .str ((textAt "priority" m).getD "required")), ("question", question),
      ("suggestions", (lookup "suggestions" m).getD (.arr [])),
      ("input_type", .str ((textAt "input_type" m).getD "select"))])
  | _ => none

/-- Step 15: `missing_fields`. -/
def repairMissingFields (v : Option Json) : Option Json :=
  match v with
  | some (.arr items) => some (.arr (items.filterMap repairMissingField))
  | v => orDefault (.arr []) v

/-! ## Steps that read other fields -/

/-- The plan mode of an interpretation that has none. -/
def inferPlanMode (obj : Fields) : Json :=
  let requiresClarification :=
    (((lookup "teacher_intent" obj).bind (get "requires_clarification")).bind asBool).getD false
  let confidenceScore :=
    (((lookup "confidence" obj).bind (get "score")).bind asF64).getD (6 / 10)
  let planActive := requiresClarification || confidenceScore < 5 / 10
  .obj [("active", planActive),
    ("reason", if planActive then
      "Prompt lacks required information for media generation. Teacher clarification needed."
      else .null),
    ("detected_content_type", .null), ("content_type_confidence", .num (.float confidenceScore))]

/-- Step 13: `plan_mode`. -/
def repairPlanMode (obj : Fields) : Fields :=
  alterField "plan_mode" (fun v =>
    if isMissing v then some (inferPlanMode obj)
    else v.map (inObject (alterField "active" (orDefault false)))) obj

/-- The first number before one of some words in a prompt, if it is an `i64`; the
other answer of the detectors, `"specified"`, is none. -/
def detectCount (pattern prompt : String) : Option String :=
  (P.regexCapture pattern (P.toLowercase prompt)).filter fun s => (Text.parseI64 s).isSome

/-- `detect_slide_count_from_prompt`. -/
def detectSlideCountFromPrompt (prompt : String) : Option String :=
  detectCount P "(\\d+)\\s*(?:slides?)" prompt

/-- `detect_page_count_from_prompt`. -/
def detectPageCountFromPrompt (prompt : String) : Option String :=
  detectCount P "(\\d+)\\s*(?:halaman|hal|lembar|pages?)" prompt

/-- A text or null. -/
def textOrNull (s : Option String) : Json := ofOption .str s

/-- Interpreted fields as the repair writes them. -/
def writtenFields (targetAudience outputType subject topic : Option String)
    (learningObjectives : Option (List String)) (pageCount slideCount : Option String) : Json :=
  .obj [("target_audience", textOrNull targetAudience), ("output_type", textOrNull outputType),
    ("subject", textOrNull subject), ("topic", textOrNull topic),
    ("learning_objectives", ofOption textArray learningObjectives),
    ("page_count", textOrNull pageCount), ("difficulty_level", .null),
    ("include_activities", .null), ("slide_count", textOrNull slideCount),
    ("question_count", .null), ("meeting_duration", .null), ("teaching_method", .null),
    ("assessment_method", .null), ("visual_density", .null), ("speaker_notes", .null),
    ("question_type", .null)]

/-- The interpreted fields of an interpretation that has none. -/
def inferInterpretedFields (teacherPrompt : String) (obj : Fields) : Json :=
  let targetAudience :=
    (((lookup "target_audience" obj).bind (get "label")).bind asStr).or
      (textAt "target_audience" obj)
  let outputType :=
    (((lookup "constraints" obj).bind (get "preferred_output_type")).bind asStr).filter
      fun s => s ≠ "auto"
  let subject := ((lookup "subject_context" obj).bind (get "subject_name")).bind asStr
  let topic := ((lookup "document_blueprint" obj).bind (get "title")).bind asStr
  let learningObjectives :=
    (((lookup "learning_objectives" obj).bind asArray).map fun items =>
      items.filterMap asStr).filter fun texts => !texts.isEmpty
  writtenFields targetAudience outputType subject topic learningObjectives
    (detectPageCountFromPrompt P teacherPrompt) (detectSlideCountFromPrompt P teacherPrompt)

/-- A detected count in place of a missing one. -/
def orDetected (detected : Option String) (v : Option Json) : Option Json :=
  if isMissing v then (detected.map .str).or v else v

/-- The counts of interpreted fields that are an object. -/
def repairCounts (teacherPrompt : String) (m : Fields) : Fields :=
  alterField "page_count" (orDetected (detectPageCountFromPrompt P teacherPrompt)) <|
    alterField "slide_count" (orDetected (detectSlideCountFromPrompt P teacherPrompt)) m

/-- Step 14: `interpreted_fields`. -/
def repairInterpretedFields (teacherPrompt : String) (obj : Fields) : Fields :=
  alterField "interpreted_fields" (fun v =>
    if isMissing v then some (inferInterpretedFields P teacherPrompt obj)
    else v.map (inObject (repairCounts P teacherPrompt))) obj

/-! ## The steps in order -/

/-- The prompt that the repair copies into other fields. -/
def promptOf (obj : Fields) : String := (textAt "teacher_prompt" obj).getD "Learning material"

/-- Steps 1 to 12 of `repair_interpretation_json`, on the object of the
completion. -/
def repairFields (obj : Fields) : Fields :=
  let teacherPrompt := promptOf obj
  let obj := alterField "schema_version" (orDefault schemaVersion) obj
  let obj := alterField "teacher_prompt" (orDefaultText teacherPrompt) obj
  let obj := alterField "output_type_candidates" (repairCandidates P) obj
  let obj := alterField "constraints"
    (Option.map (inObject (alterField "max_duration_minutes" repairDuration))) obj
  let obj := alterField "document_blueprint" textBlueprint obj
  let obj := findBlueprint teacherPrompt obj
  let obj := alterField "document_blueprint"
    (Option.map (inObject (repairBlueprint teacherPrompt))) obj
  let obj := alterField "teacher_intent" (repairTeacherIntent teacherPrompt) obj
  let obj := alterField "constraints" repairConstraints obj
  let obj := alterField "confidence" (repairConfidence P) obj
  let obj := alterField "teacher_delivery_summary"
    (orDefaultText (truncateStr teacherPrompt 1000)) obj
  let obj := alterField "language" (orDefaultText (detectLanguage P.toPlatform teacherPrompt)) obj
  let obj := alterField "resolved_output_type_reasoning"
    (orDefaultText "Auto-selected based on content analysis.") obj
  let obj := alterField "content_integrity" (Option.map (inObject (repairIntegrity P))) obj
  let obj := alterField "assets" (Option.map (repairAssets P)) obj
  alterField "learning_objectives" (repairObjectives P) obj

/-- `repair_interpretation_json`, on the object of the completion. -/
def repair (obj : Fields) : Fields :=
  alterField "missing_fields" repairMissingFields
    (repairInterpretedFields P (promptOf obj) (repairPlanMode (repairFields P obj)))

/-- `decode_and_validate`: the payload, unless the repaired completion does not
decode or breaks a rule.  A repaired object is written as a text that is parsed again. -/
def decodeAndValidate (completion : Json) : Option InterpretationPayload :=
  let repaired := match completion with
    | .obj fields => P.reread (.obj (repair P fields))
    | v => v
  (InterpretationPayload.decode P repaired).filter fun p => p.Valid

/-! ## What the repair makes of each field -/

section Lookup

variable {P} {obj : Fields}

theorem lookup_findBlueprint_of_notMem {key teacherPrompt : String}
    (h : key ∉ ["document_blueprint", "blueprint", "document"]) :
    lookup key (findBlueprint teacherPrompt obj) = lookup key obj := by
  simp only [List.mem_cons, List.not_mem_nil, or_false, not_or] at h
  unfold findBlueprint
  split
  · split
    · simp [Ne.symm h.1, Ne.symm h.2.1]
    · simp [Ne.symm h.1, Ne.symm h.2.2]
    · simp [Ne.symm h.1]
  · rfl

/-- The blueprint that is repaired: the one of the completion, or the one under
another name, or the default. -/
def foundBlueprint (teacherPrompt : String) (own other : Option Json) : Json :=
  if isMissing own then other.getD (defaultBlueprint teacherPrompt) else own.getD .null

@[simp] theorem lookup_findBlueprint_self {teacherPrompt : String} :
    lookup "document_blueprint" (findBlueprint teacherPrompt obj) =
      some (foundBlueprint teacherPrompt (lookup "document_blueprint" obj)
        ((lookup "blueprint" obj).or (lookup "document" obj))) := by
  unfold findBlueprint foundBlueprint
  cases hown : lookup "document_blueprint" obj with
  | none => cases lookup "blueprint" obj <;> cases lookup "document" obj <;> simp [isMissing]
  | some v =>
    split
    · cases lookup "blueprint" obj <;> cases lookup "document" obj <;> simp
    · simp [hown]

/-- The keys that a step changes. -/
def repairedKeys : List String :=
  ["schema_version", "teacher_prompt", "output_type_candidates", "constraints",
    "document_blueprint", "blueprint", "document", "teacher_intent", "confidence",
    "teacher_delivery_summary", "language", "resolved_output_type_reasoning",
    "content_integrity", "assets", "learning_objectives", "plan_mode", "interpreted_fields",
    "missing_fields"]

theorem lookup_repair_of_notMem {key : String} (h : key ∉ repairedKeys) :
    lookup key (repair P obj) = lookup key obj := by
  simp only [repairedKeys, List.mem_cons, List.not_mem_nil, or_false, not_or] at h
  have hblueprint : key ∉ ["document_blueprint", "blueprint", "document"] := by simp [h]
  simp [repair, repairFields, repairPlanMode, repairInterpretedFields, Ne.symm, h,
    lookup_findBlueprint_of_notMem hblueprint, eq_comm (b := key)]

theorem lookup_repair_schemaVersion : lookup "schema_version" (repair P obj) =
    orDefault schemaVersion (lookup "schema_version" obj) := by
  simp [repair, repairFields, repairPlanMode, repairInterpretedFields,
    lookup_findBlueprint_of_notMem]

theorem lookup_repair_teacherPrompt : lookup "teacher_prompt" (repair P obj) =
    orDefaultText (promptOf obj) (lookup "teacher_prompt" obj) := by
  simp [repair, repairFields, repairPlanMode, repairInterpretedFields,
    lookup_findBlueprint_of_notMem]

theorem lookup_repair_candidates : lookup "output_type_candidates" (repair P obj) =
    repairCandidates P (lookup "output_type_candidates" obj) := by
  simp [repair, repairFields, repairPlanMode, repairInterpretedFields,
    lookup_findBlueprint_of_notMem]

theorem lookup_repair_constraints : lookup "constraints" (repair P obj) =
    repairConstraints ((lookup "constraints" obj).map
      (inObject (alterField "max_duration_minutes" repairDuration))) := by
  simp [repair, repairFields, repairPlanMode, repairInterpretedFields,
    lookup_findBlueprint_of_notMem]

theorem lookup_repair_documentBlueprint : lookup "document_blueprint" (repair P obj) =
    some (inObject (repairBlueprint (promptOf obj)) (foundBlueprint (promptOf obj)
      (textBlueprint (lookup "document_blueprint" obj))
      ((lookup "blueprint" obj).or (lookup "document" obj)))) := by
  simp [repair, repairFields, repairPlanMode, repairInterpretedFields]

theorem lookup_repair_teacherIntent : lookup "teacher_intent" (repair P obj) =
    repairTeacherIntent (promptOf obj) (lookup "teacher_intent" obj) := by
  simp [repair, repairFields, repairPlanMode, repairInterpretedFields,
    lookup_findBlueprint_of_notMem]

theorem lookup_repair_confidence : lookup "confidence" (repair P obj) =
    repairConfidence P (lookup "confidence" obj) := by
  simp [repair, repairFields, repairPlanMode, repairInterpretedFields,
    lookup_findBlueprint_of_notMem]

theorem lookup_repair_deliverySummary : lookup "teacher_delivery_summary" (repair P obj) =
    orDefaultText (truncateStr (promptOf obj) 1000) (lookup "teacher_delivery_summary" obj) := by
  simp [repair, repairFields, repairPlanMode, repairInterpretedFields,
    lookup_findBlueprint_of_notMem]

theorem lookup_repair_language : lookup "language" (repair P obj) =
    orDefaultText (detectLanguage P.toPlatform (promptOf obj)) (lookup "language" obj) := by
  simp [repair, repairFields, repairPlanMode, repairInterpretedFields,
    lookup_findBlueprint_of_notMem]

theorem lookup_repair_reasoning : lookup "resolved_output_type_reasoning" (repair P obj) =
    orDefaultText "Auto-selected based on content analysis."
      (lookup "resolved_output_type_reasoning" obj) := by
  simp [repair, repairFields, repairPlanMode, repairInterpretedFields,
    lookup_findBlueprint_of_notMem]

theorem lookup_repair_integrity : lookup "content_integrity" (repair P obj) =
    (lookup "content_integrity" obj).map (inObject (repairIntegrity P)) := by
  simp [repair, repairFields, repairPlanMode, repairInterpretedFields,
    lookup_findBlueprint_of_notMem]

theorem lookup_repair_assets : lookup "assets" (repair P obj) =
    (lookup "assets" obj).map (repairAssets P) := by
  simp [repair, repairFields, repairPlanMode, repairInterpretedFields,
    lookup_findBlueprint_of_notMem]

theorem lookup_repair_objectives : lookup "learning_objectives" (repair P obj) =
    repairObjectives P (lookup "learning_objectives" obj) := by
  simp [repair, repairFields, repairPlanMode, repairInterpretedFields,
    lookup_findBlueprint_of_notMem]

theorem lookup_repair_missingFields : lookup "missing_fields" (repair P obj) =
    repairMissingFields (lookup "missing_fields" obj) := by
  simp [repair, repairFields, repairPlanMode, repairInterpretedFields,
    lookup_findBlueprint_of_notMem]

theorem lookup_repair_planMode : lookup "plan_mode" (repair P obj) =
    if isMissing (lookup "plan_mode" obj) then some (inferPlanMode (repairFields P obj))
    else (lookup "plan_mode" obj).map (inObject (alterField "active" (orDefault false))) := by
  have hown : lookup "plan_mode" (repairFields P obj) = lookup "plan_mode" obj := by
    simp [repairFields, lookup_findBlueprint_of_notMem]
  simp [repair, repairPlanMode, repairInterpretedFields, hown]

theorem lookup_repair_interpretedFields : lookup "interpreted_fields" (repair P obj) =
    if isMissing (lookup "interpreted_fields" obj) then
      some (inferInterpretedFields P (promptOf obj) (repairPlanMode (repairFields P obj)))
    else (lookup "interpreted_fields" obj).map (inObject (repairCounts P (promptOf obj))) := by
  have hown : lookup "interpreted_fields" (repairFields P obj) =
      lookup "interpreted_fields" obj := by
    simp [repairFields, lookup_findBlueprint_of_notMem]
  simp [repair, repairPlanMode, repairInterpretedFields, hown]

end Lookup

end KlassGateway.Contracts.PromptInterpretation
