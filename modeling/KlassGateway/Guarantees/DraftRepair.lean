import KlassGateway.Contracts.ContentDraft
import KlassGateway.System
import Mathlib.Tactic.MkIffOfInductiveProp
/-!
# What the repair of a draft establishes

`decodeAndValidate_isSome_iff` says for which objects a content draft is
accepted: the fields that the repair leaves as they are must have their types,
and every text that the repair cuts must fit its bound.

* A text of white space is not replaced by the default, and cutting it leaves
  nothing.
* Cutting a text that is too long leaves one that is still too long
  (`hasLength_truncateStr`).
* Slides, the fallback and the PPTX texts are not repaired.
* A record may be given as an array of its fields.  A section given so is not
  repaired: it is accepted with the texts that it has.
-/

namespace KlassGateway.Contracts.ContentDraft

open Lib Lib.Json

variable {P : Platform}

/-! ## Fields that are not repaired -/

/-- An item of a slide has no heading or body of another type. -/
@[mk_iff] structure ItemFields (v : Json) : Prop where
  heading : WhenPresent "heading" IsText v
  body : WhenPresent "body" IsText v

/-- A slide has its number, its layout and its title. -/
@[mk_iff] structure SlideFields (v : Json) : Prop where
  slideNumber : Required "slide_number" (IsInteger 0 (2 ^ 32)) v
  layoutType : Required "layout_type" IsText v
  title : Required "title" (fun _ => True) v
  subtitle : WhenPresent "subtitle" (OrNull IsText) v
  content : WhenPresent "content" (IsList (IsRecord PptxSlideContentItem.names 0 ItemFields)) v

/-- A fallback has no field of another type. -/
@[mk_iff] structure FallbackFields (v : Json) : Prop where
  triggered : WhenPresent "triggered" IsBool v
  reasonCode : WhenPresent "reason_code" (OrNull IsText) v
  action : WhenPresent "action" (OrNull IsText) v

/-- The fields of a draft that the repair leaves as they are decode. -/
@[mk_iff] structure UntouchedFields (draft : Json) : Prop where
  fallback : WhenPresent "fallback" (IsRecord DraftFallback.names 0 FallbackFields) draft
  slides : WhenPresent "slides" (OrNull (IsList (IsRecord PptxSlide.names 3 SlideFields))) draft
  presentationTitle : WhenPresent "presentation_title" (OrNull IsText) draft
  themeSuggestion : WhenPresent "theme_suggestion" (OrNull IsText) draft
  objectives : WhenPresent "learning_objectives" (OrNull (IsList fun _ => True)) draft

theorem itemDecode_isSome {v : Json} :
    (PptxSlideContentItem.decode v).isSome ↔
      IsRecord PptxSlideContentItem.names 0 ItemFields v :=
  record_isSome_iff fun w => by
    simp only [seq_isSome, pure_isSome, yields_const, fieldOr_isSome, asStr_isSome, and_true,
      itemFields_iff]

theorem slideDecode_isSome {v : Json} :
    (PptxSlide.decode P v).isSome ↔ IsRecord PptxSlide.names 3 SlideFields v :=
  record_isSome_iff fun w => by
    simp only [lenientText, u32, seq_isSome, pure_isSome, yields_const, fieldOr_isSome,
      field_isSome, nullable_isSome, list_isSome, itemDecode_isSome, asStr_isSome, integer_isSome,
      Option.isSome_some, and_true, slideFields_iff]

theorem fallbackDecode_isSome {v : Json} :
    (DraftFallback.decode v).isSome ↔ IsRecord DraftFallback.names 0 FallbackFields v :=
  record_isSome_iff fun w => by
    simp only [seq_isSome, pure_isSome, yields_const, fieldOr_isSome, nullable_isSome,
      asStr_isSome, asBool_isSome, and_true, fallbackFields_iff]

section Blind

variable {f : Rat → Json.Number}

theorem fallbackDecode_same : Same f DraftFallback.decode :=
  Same.record fun v => by
    simp only [same_asBool.fieldOr v, same_asStr.nullable.fieldOr v]

theorem itemDecode_same : Same f PptxSlideContentItem.decode :=
  Same.record fun v => by
    simp only [same_asStr.fieldOr v]

/-- The floats of slides do not decide whether they are accepted. -/
theorem slideDecode_blind (hf : ∀ q, ∃ r, f q = .float r) :
    Blind f (PptxSlide.decode P) fun _ => True :=
  Blind.record fun v => by
    have hnumber : Same f u32 := same_integer hf
    simp only [yields_true, seq_isSome, pure_isSome, yields_const, lenientText, hnumber.field v,
      same_asStr.field v, same_asStr.nullable.fieldOr v, itemDecode_same.list.fieldOr v,
      field_total_isSome, get_mapFloats, Option.isSome_map]

end Blind

/-! ## Sections -/

/-- The blocks of a section, as the completion has them. -/
def sectionBlocks (s : Json) : List Json := ((s.get "body_blocks").bind asArray).getD []

/-- The purpose of a section before it is cut. -/
def sectionPurpose (s : Json) : String := textOr "purpose" "Section content" s

variable (P)

/-- What the repair cuts in a section fits.  A section without a block gets one
with the whole purpose. -/
@[mk_iff] structure RepairedFits (s : Json) : Prop where
  title : Fits 200 (textOr "title" "Untitled Section" s)
  purpose : Fits 500 (sectionPurpose s)
  blocks : ∀ block ∈ sectionBlocks s, ∀ content, blockContent P block = some content →
    Fits 1000 content
  purposeBlock : (∀ block ∈ sectionBlocks s, blockContent P block = none) →
    (sectionPurpose s).utf8ByteSize ≤ 1000

/-- The fields of a block are within their bounds. -/
@[mk_iff] structure BlockFields (v : Json) : Prop where
  type : Required "type" IsText v
  content : Required "content" (fun x => HasLength 1 1000 (lenientString P x)) v

/-- The fields of a section are within their bounds. -/
@[mk_iff] structure SectionFields (v : Json) : Prop where
  title : Required "title" (fun x => HasLength 1 200 (lenientString P x)) v
  purpose : Required "purpose" (fun x => HasLength 1 500 (lenientString P x)) v
  blocks : Required "body_blocks" (fun x => ∃ items, x = .arr items ∧
    (∀ block ∈ items, IsRecord BodyBlock.names 2 (BlockFields P) block) ∧ items ≠ []) v
  emphasis : Required "emphasis" (fun _ => True) v

/-- A section is repaired if it is an object.  An array is read as it is, with its floats as they
are read again. -/
def SectionFits : Json → Prop
  | .obj fields => RepairedFits P (.obj fields)
  | v => IsRecord ContentSection.names 4 (SectionFields P) (P.reread v)

variable {P}

theorem blockDecode_iff {v : Json} :
    Yields (BodyBlock.decode P v) BodyBlock.Valid ↔
      IsRecord BodyBlock.names 2 (BlockFields P) v :=
  yields_record_iff fun w => by
    simp only [lenientText, yields_seq, yields_pure, BodyBlock.Valid, yields_const, yields_field,
      field_isSome, asStr_isSome, yields_some, blockFields_iff]

theorem sectionDecode_iff {v : Json} :
    Yields (ContentSection.decode P v) ContentSection.Valid ↔
      IsRecord ContentSection.names 4 (SectionFields P) v :=
  yields_record_iff fun w => by
    simp only [lenientText, yields_seq, yields_pure, ContentSection.Valid, ↓yields_const,
      yields_and_left, yields_and_right, yields_field, yields_list_iff, field_isSome, yields_some,
      blockDecode_iff, sectionFields_iff, Option.isSome_some]
    tauto

/-- The block with a text decodes to a valid block exactly when the text is
within its bound. -/
theorem textBlock_iff {type content : String} :
    Yields (BodyBlock.decode P (.obj [("type", type), ("content", content)])) BodyBlock.Valid ↔
      HasLength 1 1000 content := by
  simp [BodyBlock.decode, lenientText, field, asStr, BodyBlock.Valid]

theorem filterMap_repairBlock_eq_nil {blocks : List Json} :
    blocks.filterMap (repairBlock P) = [] ↔ ∀ block ∈ blocks, blockContent P block = none := by
  simp [List.filterMap_eq_nil_iff, repairBlock]

/-- A section whose blocks have no content gets a block with the purpose. -/
theorem repairBlocks_of_none {s : Json} {purpose : String}
    (h : ∀ block ∈ sectionBlocks s, blockContent P block = none) :
    repairBlocks P s purpose = [.obj [("type", "paragraph"), ("content", purpose)]] := by
  have hnil := filterMap_repairBlock_eq_nil.2 h
  unfold sectionBlocks at hnil
  unfold repairBlocks
  rw [hnil]

theorem repairBlocks_of_some {s : Json} {purpose : String}
    (h : ¬ ∀ block ∈ sectionBlocks s, blockContent P block = none) :
    repairBlocks P s purpose = (sectionBlocks s).filterMap (repairBlock P) := by
  have hnil := mt filterMap_repairBlock_eq_nil.1 h
  unfold sectionBlocks at hnil ⊢
  unfold repairBlocks
  split
  · next heq => exact absurd heq hnil
  · next heq => exact rfl

/-- The blocks of a repaired section are valid exactly when the contents fit. -/
theorem blocksDecode_iff {s : Json} {purpose : String} (hpurpose : purpose ≠ "") :
    (Yields (list (BodyBlock.decode P) (.arr (repairBlocks P s purpose))) fun bs =>
        (∀ b ∈ bs, b.Valid) ∧ bs ≠ []) ↔
      (∀ block ∈ sectionBlocks s, ∀ content, blockContent P block = some content →
        Fits 1000 content) ∧
      ((∀ block ∈ sectionBlocks s, blockContent P block = none) →
        purpose.utf8ByteSize ≤ 1000) := by
  rw [yields_list_ne_nil]
  by_cases hnone : ∀ block ∈ sectionBlocks s, blockContent P block = none
  · have hfits : ∀ block ∈ sectionBlocks s, ∀ content, blockContent P block = some content →
        Fits 1000 content := by
      intro block hblock content hcontent
      rw [hnone block hblock] at hcontent
      cases hcontent
    rw [repairBlocks_of_none hnone, List.forall_mem_singleton, textBlock_iff, hasLength_iff]
    constructor
    · rintro ⟨⟨_, hsize⟩, _⟩
      exact ⟨hfits, fun _ => hsize⟩
    · rintro ⟨_, hsize⟩
      exact ⟨⟨hpurpose, hsize hnone⟩, List.cons_ne_nil _ _⟩
  · have hne : (sectionBlocks s).filterMap (repairBlock P) ≠ [] :=
      mt filterMap_repairBlock_eq_nil.1 hnone
    rw [repairBlocks_of_some hnone]
    simp only [hne, hnone, ne_eq, not_false_eq_true, and_true, false_imp_iff, List.mem_filterMap,
      repairBlock, Option.map_eq_some_iff]
    constructor
    · intro h block hblock content hcontent
      have := h _ ⟨block, hblock, content, hcontent, rfl⟩
      rw [textBlock_iff, hasLength_truncateStr] at this
      exact this
    · rintro h _ ⟨block, hblock, content, hcontent, rfl⟩
      rw [textBlock_iff, hasLength_truncateStr]
      exact h block hblock content hcontent

theorem textOr_ne_empty {key default : String} {v : Json} (hdefault : default ≠ "") :
    textOr key default v ≠ "" := by
  unfold textOr
  cases h : ((v.get key).bind asStr).filter fun s => s ≠ "" with
  | none => exact hdefault
  | some s =>
    have := Option.eq_some_of_filter_eq_some h
    have := (Option.filter_eq_some_iff.1 h).2
    simpa using this

/-- A written section is accepted exactly when its texts are within their bounds
and its blocks are accepted. -/
theorem writtenSection_iff {title purpose emphasis : String} {blocks : List Json} :
    Yields (ContentSection.decode P (.obj [("title", title), ("purpose", purpose),
        ("body_blocks", .arr blocks), ("emphasis", emphasis)])) ContentSection.Valid ↔
      HasLength 1 200 title ∧ HasLength 1 500 purpose ∧
        Yields (list (BodyBlock.decode P) (.arr blocks)) fun bs =>
          (∀ b ∈ bs, b.Valid) ∧ bs ≠ [] := by
  simp [ContentSection.decode, lenientText, field, ContentSection.Valid]

/-- The blocks that the repair has written hold texts only. -/
theorem reread_repairBlocks (s : Json) (purpose : String) :
    (repairBlocks P s purpose).map P.reread = repairBlocks P s purpose := by
  conv_rhs => rw [← List.map_id (repairBlocks P s purpose)]
  refine List.map_congr_left fun block hblock => ?_
  unfold repairBlocks at hblock
  split at hblock
  · rw [List.mem_singleton.1 hblock]
    rfl
  · obtain ⟨w, -, hw⟩ := List.mem_filterMap.1 hblock
    obtain ⟨content, -, rfl⟩ := Option.map_eq_some_iff.1 hw
    rfl

/-- A section is accepted after the repair exactly when it fits. -/
theorem repairedSection_iff {s : Json} :
    Yields (ContentSection.decode P (P.reread (repairDraftSection P s))) ContentSection.Valid ↔
      SectionFits P s := by
  cases s with
  | obj fields =>
    have hpurpose : sectionPurpose (.obj fields) ≠ "" := textOr_ne_empty (by decide)
    rw [SectionFits, repairedFits_iff, ← blocksDecode_iff hpurpose, ← hasLength_truncateStr,
      ← hasLength_truncateStr, ← writtenSection_iff, ← reread_repairBlocks,
      ← P.reread_arr]
    rfl
  | _ => exact sectionDecode_iff

/-! ## The draft -/

variable (P) in
/-- The texts of a draft, before they are cut, fit. -/
@[mk_iff] structure DraftFits (draft : Json) : Prop where
  schemaVersion : keepsSchemaVersion draft →
    WhenPresent "schema_version" (fun v => lenientString P (P.reread v) ≠ "") draft
  title : Fits 200 (draftTitle draft)
  summary : Fits 1000 (draftSummary draft)
  delivery : Fits 1000 (draftDelivery draft)
  sections : ∀ sections, nonEmptyArray "sections" draft = some sections →
    ∀ s ∈ sections, SectionFits P s

section Repaired

variable {fields : List (String × Json)}

/-- What the decoder finds under a key of the repaired draft. -/
theorem get_repairDraft (key : String) :
    (repairDraft P (.obj fields)).get key =
      if key = "learning_objectives" ∧ (repairObjectives P (.obj fields)).isSome then
        repairObjectives P (.obj fields)
      else if key = "sections" then some (.arr (repairSections P (.obj fields)))
      else if key = "teacher_delivery_summary" then
        some (truncateStr (draftDelivery (.obj fields)) 1000)
      else if key = "summary" then some (truncateStr (draftSummary (.obj fields)) 1000)
      else if key = "title" then some (truncateStr (draftTitle (.obj fields)) 200)
      else if key = "schema_version" ∧ keepsSchemaVersion (.obj fields) = false then
        some schemaVersion
      else lookup key fields := by
  unfold repairDraft
  cases repairObjectives P (.obj fields) <;> cases keepsSchemaVersion (.obj fields) <;>
    simp [eq_comm]

/-- A key that the repair does not set keeps its value. -/
theorem get_repairDraft_of_notMem (key : String)
    (h : key ∉ ["schema_version", "title", "summary", "teacher_delivery_summary", "sections",
      "learning_objectives"]) :
    (repairDraft P (.obj fields)).get key = (Json.obj fields).get key := by
  simp only [List.mem_cons, List.not_mem_nil, or_false, not_or] at h
  rw [get_repairDraft]
  simp [h]

theorem isObject_repairDraft : (repairDraft P (.obj fields)).isObject := by
  unfold repairDraft
  cases repairObjectives P (.obj fields) <;> cases keepsSchemaVersion (.obj fields) <;> rfl

/-- The learning objectives decode unless they are neither null nor an array. -/
theorem objectivesDecode_iff :
    WhenPresent "learning_objectives" (IsList IsText) (repairDraft P (.obj fields)) ↔
      WhenPresent "learning_objectives" (OrNull (IsList fun _ => True)) (.obj fields) := by
  have hnil : IsList IsText (.arr []) := ⟨[], rfl, by simp⟩
  unfold WhenPresent
  rw [get_repairDraft]
  unfold repairObjectives
  cases hkey : (Json.obj fields).get "learning_objectives" with
  | none => simp [hnil]
  | some v =>
    cases v with
    | null => simp [hnil, OrNull, isNull]
    | arr items => simp [OrNull, IsList, IsText]
    | _ =>
      rw [get_obj] at hkey
      simp [hkey, OrNull, IsList, isNull]

/-- The schema version decodes to a text that is not empty. -/
theorem versionDecode_iff :
    Yields (field "schema_version" (fun v => some (lenientString P v))
        (P.reread (repairDraft P (.obj fields)))) NonEmpty ↔
      (keepsSchemaVersion (.obj fields) →
        WhenPresent "schema_version" (fun v => lenientString P (P.reread v) ≠ "")
          (.obj fields)) := by
  unfold field WhenPresent
  rw [P.get_reread, get_repairDraft]
  cases hkeeps : keepsSchemaVersion (.obj fields) with
  | false => simp [nonEmpty_schemaVersion]
  | true =>
    cases hkey : lookup "schema_version" fields with
    | none => simp [keepsSchemaVersion, hkey] at hkeeps
    | some v => simp [hkey, nonEmpty_iff]

/-- The sections decode to valid ones exactly when their texts fit. -/
theorem sectionsDecode_iff (htitle : Fits 200 (draftTitle (.obj fields))) :
    (Yields (list (ContentSection.decode P)
        (P.reread (.arr (repairSections P (.obj fields))))) fun ss => ∀ s ∈ ss, s.Valid) ↔
      ∀ sections, nonEmptyArray "sections" (.obj fields) = some sections →
        ∀ s ∈ sections, SectionFits P s := by
  rw [P.reread_arr, yields_list, List.forall_mem_map]
  unfold repairSections
  split
  · next hsections _ =>
    have hname : HasLength 1 200 "Requested Content" := by decide
    have hpurpose : HasLength 1 500 "Deliver the requested learning material." := by decide
    have hcontent : HasLength 1 1000 (truncateStr (draftTitle (.obj fields)) 200) :=
      have h := hasLength_truncateStr.2 htitle
      ⟨h.1, h.2.trans (by omega)⟩
    simp only [hsections, reduceCtorEq, false_imp_iff, implies_true, iff_true,
      List.forall_mem_singleton]
    refine writtenSection_iff.2 ⟨hname, hpurpose, yields_list_ne_nil.2 ⟨?_, List.cons_ne_nil _ _⟩⟩
    exact List.forall_mem_singleton.2 (textBlock_iff.2 hcontent)
  · next hsections _ => simp [hsections]
  · next hsections =>
    simp [hsections, repairedSection_iff]

variable (P fields) in
/-- A text that the repair has cut is within its bound exactly when it fits. -/
theorem cutDecode_iff (key : String) {text : String} {max : Nat}
    (h : (repairDraft P (.obj fields)).get key = some (truncateStr text max)) :
    Yields (field key (fun v => some (lenientString P v)) (P.reread (repairDraft P (.obj fields))))
      (HasLength 1 max) ↔ Fits max text := by
  unfold field
  rw [P.get_reread, h]
  simp [hasLength_truncateStr]

/-- A draft is accepted exactly when the fields that are not repaired have their
types and the texts that are cut fit. -/
theorem draft_accepted_iff (P : Platform) (fields : List (String × Json)) :
    (decodeAndValidate P (.obj fields)).isSome ↔
      UntouchedFields (.obj fields) ∧ DraftFits P (.obj fields) := by
  have htitle : _ ↔ Fits 200 (draftTitle (.obj fields)) :=
    cutDecode_iff P fields "title" (by simp [get_repairDraft])
  have hsummary : _ ↔ Fits 1000 (draftSummary (.obj fields)) :=
    cutDecode_iff P fields "summary" (by simp [get_repairDraft])
  have hdelivery : _ ↔ Fits 1000 (draftDelivery (.obj fields)) :=
    cutDecode_iff P fields "teacher_delivery_summary" (by simp [get_repairDraft])
  have hsections : fieldOr "sections" [] (list (ContentSection.decode P))
      (P.reread (repairDraft P (.obj fields))) =
      list (ContentSection.decode P) (P.reread (.arr (repairSections P (.obj fields)))) := by
    unfold fieldOr
    rw [P.get_reread, get_repairDraft]
    rfl
  have hslides : Blind (fun q => .float (P.rereadFloat q))
      (fieldOr "slides" none (nullable (list (PptxSlide.decode P)))) fun _ => True :=
    ((slideDecode_blind fun q => ⟨P.rereadFloat q, rfl⟩).list_true.nullable
      (Q := fun _ => True)).fieldOr
  have hobject : (P.reread (repairDraft P (.obj fields))).isObject :=
    (isObject_mapFloats _).trans isObject_repairDraft
  unfold decodeAndValidate
  simp only [isObject_obj, if_true, filter_isSome]
  simp only [ContentDraftPayload.decode, yields_record, isRecord_of_isObject hobject, yields_seq,
    yields_pure, ContentDraftPayload.Valid, ↓yields_const, yields_and_left, yields_and_right,
    lenientText, versionDecode_iff, htitle, hsummary, hdelivery, hsections,
    P.reread_isSome hslides, P.reread_same same_asStr.list.fieldOr,
    P.reread_same fallbackDecode_same.fieldOr, P.reread_same same_asStr.nullable.fieldOr]
  simp only [fieldOr_isSome, nullable_isSome, list_isSome, asStr_isSome, slideDecode_isSome,
    fallbackDecode_isSome, objectivesDecode_iff,
    WhenPresent.congr (get_repairDraft_of_notMem "fallback" (by decide)),
    WhenPresent.congr (get_repairDraft_of_notMem "slides" (by decide)),
    WhenPresent.congr (get_repairDraft_of_notMem "presentation_title" (by decide)),
    WhenPresent.congr (get_repairDraft_of_notMem "theme_suggestion" (by decide))]
  rw [untouchedFields_iff, draftFits_iff]
  constructor
  · rintro ⟨hversion, hobjectives, hfallback, hslides, hname, htheme, htitle, hsummary, hsections,
      hdelivery⟩
    exact ⟨⟨hfallback, hslides, hname, htheme, hobjectives⟩, hversion, htitle, hsummary,
      hdelivery, (sectionsDecode_iff htitle).1 hsections⟩
  · rintro ⟨⟨hfallback, hslides, hname, htheme, hobjectives⟩, hversion, htitle, hsummary,
      hdelivery, hsections⟩
    exact ⟨hversion, hobjectives, hfallback, hslides, hname, htheme, htitle, hsummary,
      (sectionsDecode_iff htitle).2 hsections, hdelivery⟩

/-- A draft whose title is one blank is rejected. -/
theorem blankTitle_rejected :
    (decodeAndValidate asciiPlatform (.obj [("title", " "), ("summary", "Ringkasan")])).isNone := by
  decide +kernel

end Repaired

end KlassGateway.Contracts.ContentDraft
