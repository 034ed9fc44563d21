import KlassGateway.Contracts.Bounds
/-!
# The content draft contract

Model of `contracts/content_draft.rs`, schema version
`media_content_draft.v1`: the records with their validation rules, the repair of
a completion, decoding, and the fallback.

A completion is given as the value that the JSON parser makes of it.
-/

namespace KlassGateway.Contracts.ContentDraft

open Lib Lib.Json

/-- `SCHEMA_VERSION`. -/
def schemaVersion : String := "media_content_draft.v1"

theorem nonEmpty_schemaVersion : NonEmpty schemaVersion := by decide

/-! ## Records -/

/-- `BodyBlock`. -/
structure BodyBlock where
  type : String
  content : String

/-- `ContentSection`. -/
structure ContentSection where
  title : String
  purpose : String
  bodyBlocks : List BodyBlock
  emphasis : String

/-- `DraftFallback`. -/
structure DraftFallback where
  triggered : Bool := false
  reasonCode : Option String := none
  action : Option String := none

/-- `PptxSlideContentItem`. -/
structure PptxSlideContentItem where
  heading : String := ""
  body : String := ""

/-- `PptxSlide`.  Slides are not validated. -/
structure PptxSlide where
  slideNumber : Int
  layoutType : String
  title : String
  subtitle : Option String := none
  content : List PptxSlideContentItem := []

/-- `ContentDraftPayload`. -/
structure ContentDraftPayload where
  schemaVersion : String
  title : String
  summary : String
  learningObjectives : List String := []
  sections : List ContentSection := []
  teacherDeliverySummary : String
  fallback : DraftFallback := {}
  slides : Option (List PptxSlide) := none
  presentationTitle : Option String := none
  themeSuggestion : Option String := none

/-! ## Validation -/

/-- The rules of `BodyBlock`. -/
def BodyBlock.Valid (b : BodyBlock) : Prop := HasLength 1 1000 b.content

instance (b : BodyBlock) : Decidable b.Valid := inferInstanceAs (Decidable (HasLength _ _ _))

/-- The rules of `ContentSection`. -/
def ContentSection.Valid (s : ContentSection) : Prop :=
  HasLength 1 200 s.title ∧ HasLength 1 500 s.purpose ∧ (∀ b ∈ s.bodyBlocks, b.Valid) ∧
    s.bodyBlocks ≠ []

instance (s : ContentSection) : Decidable s.Valid :=
  haveI : Decidable (s.bodyBlocks ≠ []) := decidable_of_iff (¬ s.bodyBlocks.isEmpty) (by simp)
  inferInstanceAs (Decidable (_ ∧ _))

/-- The rules of `ContentDraftPayload`. -/
def ContentDraftPayload.Valid (p : ContentDraftPayload) : Prop :=
  NonEmpty p.schemaVersion ∧ HasLength 1 200 p.title ∧ HasLength 1 1000 p.summary ∧
    (∀ s ∈ p.sections, s.Valid) ∧ HasLength 1 1000 p.teacherDeliverySummary

instance (p : ContentDraftPayload) : Decidable p.Valid := inferInstanceAs (Decidable (_ ∧ _))

/-! ## Decoding -/

variable (P : Platform)

/-- The first of some keys that an object has. -/
def firstKey (keys : List String) (v : Json) : Option Json := keys.findSome? fun k => v.get k

/-- The texts and numbers of an array, joined as a list. -/
def joinItems (items : List Json) : String :=
  "\n- ".intercalate (items.filterMap fun
    | .str s => some s
    | .num n => some (P.jsonText (.num n))
    | _ => none)

/-- `deserialize_string_lenient`: every value is read as a text. -/
def lenientString : Json → String
  | .str s => s
  | .num n => P.jsonText (.num n)
  | .bool b => if b then "true" else "false"
  | .null => ""
  | .arr items => joinItems P items
  | .obj fields =>
    match (firstKey ["text", "content", "label", "name", "value"] (.obj fields)).bind asStr with
    | some s => s
    | none =>
      match (lookup "items" fields).bind asArray with
      | some items => joinItems P items
      | none => P.jsonText (.obj fields)

@[simp] theorem lenientString_str (s : String) : lenientString P (.str s) = s := rfl

/-- `#[serde(deserialize_with = "deserialize_string_lenient")]`. -/
def lenientText (key : String) : Decoder String := field key fun v => some (lenientString P v)

/-- The fields of `BodyBlock`. -/
def BodyBlock.names : List String := ["type", "content"]

/-- The derived `Deserialize` of `BodyBlock`. -/
def BodyBlock.decode : Decoder BodyBlock := record names 2 fun v => do
  let type ← field "type" asStr v
  let content ← lenientText P "content" v
  return { type, content }

/-- The fields of `ContentSection`. -/
def ContentSection.names : List String := ["title", "purpose", "body_blocks", "emphasis"]

/-- The derived `Deserialize` of `ContentSection`. -/
def ContentSection.decode : Decoder ContentSection := record names 4 fun v => do
  let title ← lenientText P "title" v
  let purpose ← lenientText P "purpose" v
  let bodyBlocks ← field "body_blocks" (list (BodyBlock.decode P)) v
  let emphasis ← lenientText P "emphasis" v
  return { title, purpose, bodyBlocks, emphasis }

/-- The fields of `DraftFallback`. -/
def DraftFallback.names : List String := ["triggered", "reason_code", "action"]

/-- The derived `Deserialize` of `DraftFallback`. -/
def DraftFallback.decode : Decoder DraftFallback := record names 0 fun v => do
  let triggered ← fieldOr "triggered" false asBool v
  let reasonCode ← fieldOr "reason_code" none (nullable asStr) v
  let action ← fieldOr "action" none (nullable asStr) v
  return { triggered, reasonCode, action }

/-- The fields of `PptxSlideContentItem`. -/
def PptxSlideContentItem.names : List String := ["heading", "body"]

/-- The derived `Deserialize` of `PptxSlideContentItem`. -/
def PptxSlideContentItem.decode : Decoder PptxSlideContentItem := record names 0 fun v => do
  let heading ← fieldOr "heading" "" asStr v
  let body ← fieldOr "body" "" asStr v
  return { heading, body }

/-- The fields of `PptxSlide`. -/
def PptxSlide.names : List String := ["slide_number", "layout_type", "title", "subtitle", "content"]

/-- The derived `Deserialize` of `PptxSlide`. -/
def PptxSlide.decode : Decoder PptxSlide := record names 3 fun v => do
  let slideNumber ← field "slide_number" u32 v
  let layoutType ← field "layout_type" asStr v
  let title ← lenientText P "title" v
  let subtitle ← fieldOr "subtitle" none (nullable asStr) v
  let content ← fieldOr "content" [] (list PptxSlideContentItem.decode) v
  return { slideNumber, layoutType, title, subtitle, content }

/-- The fields of `ContentDraftPayload`. -/
def ContentDraftPayload.names : List String :=
  ["schema_version", "title", "summary", "learning_objectives", "sections",
    "teacher_delivery_summary", "fallback", "slides", "presentation_title", "theme_suggestion"]

/-- The derived `Deserialize` of `ContentDraftPayload`. -/
def ContentDraftPayload.decode : Decoder ContentDraftPayload := record names 6 fun v => do
  let schemaVersion ← lenientText P "schema_version" v
  let title ← lenientText P "title" v
  let summary ← lenientText P "summary" v
  let learningObjectives ← fieldOr "learning_objectives" [] (list asStr) v
  let sections ← fieldOr "sections" [] (list (ContentSection.decode P)) v
  let teacherDeliverySummary ← lenientText P "teacher_delivery_summary" v
  let fallback ← fieldOr "fallback" {} DraftFallback.decode v
  let slides ← fieldOr "slides" none (nullable (list (PptxSlide.decode P))) v
  let presentationTitle ← fieldOr "presentation_title" none (nullable asStr) v
  let themeSuggestion ← fieldOr "theme_suggestion" none (nullable asStr) v
  return { schemaVersion, title, summary, learningObjectives, sections, teacherDeliverySummary,
           fallback, slides, presentationTitle, themeSuggestion }

/-! ## Repair -/

/-- The text under a key, or a default where it is missing, empty or no text. -/
def textOr (key default : String) (v : Json) : String :=
  (((v.get key).bind asStr).filter fun s => s ≠ "").getD default

/-- The array under a key, if it has an element. -/
def nonEmptyArray (key : String) (v : Json) : Option (List Json) :=
  ((v.get key).bind asArray).filter fun items => !items.isEmpty

/-- `normalize_body_block_type`. -/
def normalizeBodyBlockType (raw : String) : String :=
  let r := P.toLowercase raw
  if r ∈ ["paragraph", "text", "p"] then "paragraph"
  else if r ∈ ["bullet", "bullets", "list", "ul"] then "bullet"
  else if r ∈ ["checklist", "check", "checkbox"] then "checklist"
  else if r ∈ ["note", "callout", "info"] then "note"
  else "paragraph"

/-- The texts of an array as a list, unless it has none. -/
def joinTexts (items : List Json) : Option String :=
  let joined := "\n- ".intercalate (items.filterMap asStr)
  if joined = "" then none else some ("- " ++ joined)

/-- The content of a block that is to be repaired, if it has any. -/
def blockContent (block : Json) : Option String :=
  match block.get "content" with
  | some (.str s) => if s = "" then none else some s
  | some (.obj fields) =>
    match (firstKey ["text", "content", "value", "description"] (.obj fields)).bind asStr with
    | some s => some s
    | none =>
      match (lookup "items" fields).bind asArray with
      | some items => joinTexts items
      | none =>
        let s := P.jsonText (.obj fields)
        if s = "" ∨ s = "{}" then none else some s
  | some (.arr items) => joinTexts items
  | some (.num n) => some (P.jsonText (.num n))
  | _ => none

/-- A repaired block, unless it has no content. -/
def repairBlock (block : Json) : Option Json :=
  (blockContent P block).map fun content =>
    .obj [("type", normalizeBodyBlockType P (((block.get "type").bind asStr).getD "paragraph")),
      ("content", truncateStr content 1000)]

/-- The blocks of a repaired section: those that have a content, or else one
block with the purpose. -/
def repairBlocks (s : Json) (purpose : String) : List Json :=
  match (((s.get "body_blocks").bind asArray).getD []).filterMap (repairBlock P) with
  | [] => [.obj [("type", "paragraph"), ("content", purpose)]]
  | blocks => blocks

/-- `repair_draft_section`. -/
def repairDraftSection (s : Json) : Json :=
  if s.isObject then
    let purpose := textOr "purpose" "Section content" s
    .obj [("title", truncateStr (textOr "title" "Untitled Section" s) 200),
      ("purpose", truncateStr purpose 500), ("body_blocks", .arr (repairBlocks P s purpose)),
      ("emphasis", ((s.get "emphasis").bind asStr).getD "medium")]
  else s

/-- The section that stands in for a draft without sections and slides. -/
def requestedContent (title : String) : Json :=
  .obj [("title", "Requested Content"), ("purpose", "Deliver the requested learning material."),
    ("body_blocks", .arr [.obj [("type", "paragraph"), ("content", title)]]),
    ("emphasis", "medium")]

/-- A learning objective as a text. -/
def objectiveText : Json → String
  | .str s => s
  | .obj fields =>
    ((firstKey ["objective", "text", "content", "description", "title"] (.obj fields)).bind
      asStr).getD (P.jsonText (.obj fields))
  | other => P.jsonText other

/-- The schema version is there, not null and not the empty text. -/
def keepsSchemaVersion (obj : Json) : Bool :=
  match obj.get "schema_version" with
  | none => false
  | some .null => false
  | some (.str s) => s != ""
  | some _ => true

/-- The title before it is cut. -/
def draftTitle (obj : Json) : String := textOr "title" "Untitled Draft" obj

/-- The summary before it is cut. -/
def draftSummary (obj : Json) : String := textOr "summary" (draftTitle obj) obj

/-- The delivery summary before it is cut. -/
def draftDelivery (obj : Json) : String := textOr "teacher_delivery_summary" (draftTitle obj) obj

/-- The sections of the repaired object. -/
def repairSections (obj : Json) : List Json :=
  match nonEmptyArray "sections" obj, nonEmptyArray "slides" obj with
  | none, none => [requestedContent (truncateStr (draftTitle obj) 200)]
  | none, some _ => []
  | some sections, _ => sections.map (repairDraftSection P)

/-- The learning objectives of the repaired object, if they change. -/
def repairObjectives (obj : Json) : Option Json :=
  match obj.get "learning_objectives" with
  | none => some (.arr [])
  | some .null => some (.arr [])
  | some (.arr items) => some (.arr (items.map fun item => .str (objectiveText P item)))
  | some _ => none

/-- `repair_draft_json`, on the object of the completion. -/
def repairDraft (obj : Json) : Json :=
  let versioned := if keepsSchemaVersion obj then obj else obj.insert "schema_version" schemaVersion
  let titled := ((versioned.insert "title" (truncateStr (draftTitle obj) 200)).insert
    "summary" (truncateStr (draftSummary obj) 1000)).insert
    "teacher_delivery_summary" (truncateStr (draftDelivery obj) 1000)
  let sectioned := titled.insert "sections" (.arr (repairSections P obj))
  match repairObjectives P obj with
  | some objectives => sectioned.insert "learning_objectives" objectives
  | none => sectioned

/-- `decode_and_validate`: the payload, unless the repaired completion does not
decode or breaks a rule.  A repaired object is written as a text that is parsed again. -/
def decodeAndValidate (completion : Json) : Option ContentDraftPayload :=
  let repaired := if completion.isObject then P.reread (repairDraft P completion) else completion
  (ContentDraftPayload.decode P repaired).filter fun p => p.Valid

/-! ## The fallback -/

/-- `fallback_from_interpretation`. -/
def fallbackFromInterpretation (title summary teacherDeliverySummary : String) :
    ContentDraftPayload where
  schemaVersion := schemaVersion
  title := truncateStr title 200
  summary := truncateStr summary 1000
  sections := [
    { title := "Requested Content"
      purpose := "Deliver the requested learning material."
      bodyBlocks := [{ type := "paragraph", content := truncateStr summary 1000 }]
      emphasis := "medium" }]
  teacherDeliverySummary := truncateStr teacherDeliverySummary 1000
  fallback := {
    triggered := true
    reasonCode := some "provider_response_contract_invalid"
    action := some "fallback_from_interpretation" }

/-- The fallback is valid exactly when its three texts have nothing to cut and
are not blank. -/
theorem fallbackFromInterpretation_valid_iff {title summary delivery : String} :
    (fallbackFromInterpretation title summary delivery).Valid ↔
      Fits 200 title ∧ Fits 1000 summary ∧ Fits 1000 delivery := by
  have hname : HasLength 1 200 "Requested Content" := by decide
  have hpurpose : HasLength 1 500 "Deliver the requested learning material." := by decide
  simp only [ContentDraftPayload.Valid, ContentSection.Valid, BodyBlock.Valid,
    fallbackFromInterpretation, List.forall_mem_singleton, hasLength_truncateStr, hname, hpurpose,
    nonEmpty_schemaVersion, true_and]
  constructor
  · rintro ⟨htitle, hsummary, _, hdelivery⟩
    exact ⟨htitle, hsummary, hdelivery⟩
  · rintro ⟨htitle, hsummary, hdelivery⟩
    exact ⟨htitle, hsummary, ⟨hsummary, List.cons_ne_nil _ _⟩, hdelivery⟩

end KlassGateway.Contracts.ContentDraft
