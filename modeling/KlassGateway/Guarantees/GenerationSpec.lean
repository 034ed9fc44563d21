import KlassGateway.Guarantees.InterpretationRepair
import KlassGateway.Orchestrator.GenerationSpec
/-!
# What the renderer is given

`build_generation_spec` promises the Python renderer a spec in which required
texts are never empty, enumerations have allowed values, every section has a
block, and the counts of the layout agree with the lists.

* `generationSpec_wellFormed_iff`: the spec is well formed exactly when the
  texts it is built from are not blank, the ones it copies uncut are short
  enough, and a requested number of units is positive.
-/

namespace KlassGateway.Orchestrator

open Lib Contracts.PromptInterpretation

/-! ## Well-formed specs -/

/-- There is more than white space in the text. -/
def NotBlank (s : String) : Prop := Text.trim s ≠ ""

instance (s : String) : Decidable (NotBlank s) := inferInstanceAs (Decidable (_ ≠ _))

/-- A text under the key that is not blank and has at most `max` characters. -/
def HasText (v : Json) (key : String) (max : Nat) : Prop :=
  ∃ s, strAt v [key] = some s ∧ NotBlank s ∧ s.length ≤ max

/-- One of the allowed texts under the key. -/
def HasValue (v : Json) (key : String) (allowed : List String) : Prop :=
  ∃ s ∈ allowed, strAt v [key] = some s

/-- The number at the path. -/
def intAt (v : Json) (path : List String) : Option Int :=
  (v.pointer path).bind fun
    | .num (.int n) => some n
    | _ => none

/-- A body block of a well-formed section. -/
structure WellFormedBlock (b : Json) : Prop where
  type : HasValue b "type" ["paragraph", "bullet", "checklist", "note"]
  content : HasText b "content" 1000

/-- A section of a well-formed spec. -/
structure WellFormedSection (s : Json) : Prop where
  title : HasText s "title" 200
  purpose : HasText s "purpose" 500
  blocks : ∃ blocks, arrayAt s ["body_blocks"] = some blocks ∧ blocks ≠ [] ∧
    ∀ b ∈ blocks, WellFormedBlock b
  emphasis : HasValue s "emphasis" ["short", "medium", "long"]

/-- A well-formed spec with these lists. -/
structure WellFormedWith (spec : Json) (sections assessments assets : List Json) : Prop where
  title : HasText spec "title" 200
  summary : HasText spec "summary" 1000
  deliverySummary : HasText spec "teacher_delivery_summary" 1000
  language : ∃ s, strAt spec ["language"] = some s ∧ NotBlank s
  sectionsAt : arrayAt spec ["sections"] = some sections
  eachSection : ∀ s ∈ sections, WellFormedSection s
  assessmentsAt : arrayAt spec ["assessment_or_activity_blocks"] = some assessments
  eachAssessment : ∀ a ∈ assessments,
    HasValue a "type" ["assessment", "activity", "reflection", "quiz", "assignment"]
  assetsAt : arrayAt spec ["assets"] = some assets
  eachAsset : ∀ a ∈ assets,
    HasValue a "type" ["text", "image", "table", "chart", "diagram", "reference"]
  sectionCount : intAt spec ["layout_hints", "section_count"] = some sections.length
  assetCount : intAt spec ["layout_hints", "asset_count"] = some assets.length
  assessmentCount :
    intAt spec ["layout_hints", "assessment_block_count"] = some assessments.length
  sectionUnits : intAt spec ["page_or_slide_structure", "section_units"] = some sections.length
  totalUnits : ∃ n, intAt spec ["page_or_slide_structure", "total_units"] = some n ∧ 1 ≤ n

/-- What the comment of `build_generation_spec` promises the renderer. -/
def WellFormed (spec : Json) : Prop :=
  ∃ sections assessments assets, WellFormedWith spec sections assessments assets

/-! ## Inputs that make well-formed specs -/

/-- The texts of the blocks of a section, without the empty ones. -/
def textsOf (text : Json → Option String) (blocks : Option (List Json)) : List String :=
  ((blocks.getD []).filterMap text).filter (· ≠ "")

/-- The contents that a section of a draft gives. -/
def draftTexts (s : Json) : List String :=
  textsOf (fun b => strAt b ["content"]) (arrayAt s ["body_blocks"])

/-- The contents that a section of the blueprint gives. -/
def blueprintTexts (s : Json) : List String := textsOf Json.asStr (arrayAt s ["bullets"])

/-- A section with these contents has a title and a purpose, and no content is
blank.  Without contents the purpose takes their place as it is. -/
structure SectionFits (s : Json) (contents : List String) : Prop where
  title : NotBlank ((strAt s ["title"]).getD "Untitled Section")
  purpose : NotBlank ((strAt s ["purpose"]).getD "Section content")
  eachContent : ∀ c ∈ contents, NotBlank c
  shortPurpose : contents = [] → ((strAt s ["purpose"]).getD "Section content").length ≤ 1000

/-- Every section fits; without sections the whole prompt is the one content. -/
def SectionsFit (teacherPrompt : String) (contents : Json → List String) :
    Option (List Json) → Prop
  | some (s :: ss) => ∀ t ∈ s :: ss, SectionFits t (contents t)
  | _ => NotBlank teacherPrompt ∧ teacherPrompt.length ≤ 1000

/-- The prompt that stands in for missing texts. -/
def specPrompt (interpretation : Json) : String :=
  (strAt interpretation ["teacher_prompt"]).getD "Learning material"

/-- The number of pages or slides that the interpretation asks for. -/
def requestedUnits (interpretation : Json) (exportFormat : String) : Option Int :=
  (strAt interpretation ["interpreted_fields",
    if exportFormat = "pptx" then "slide_count" else "page_count"]).bind Text.parseI64

/-- The texts that go into a spec are not blank and short enough where they are
not cut, and a requested number of units is positive. -/
structure SpecInputsFit (interpretation : Json) (exportFormat : String) (draft : Option Json) :
    Prop where
  title :
    NotBlank ((strAt interpretation ["document_blueprint", "title"]).getD
      (specPrompt interpretation))
  summary :
    NotBlank ((strAt interpretation ["document_blueprint", "summary"]).getD
      (specPrompt interpretation))
  deliverySummary :
    NotBlank ((strAt interpretation ["teacher_delivery_summary"]).getD
      (specPrompt interpretation))
  language : NotBlank ((strAt interpretation ["language"]).getD "id")
  sections : match draft with
    | some d => SectionsFit (specPrompt interpretation) draftTexts
        (arrayAt (draftContent d) ["sections"])
    | none => SectionsFit (specPrompt interpretation) blueprintTexts
        (arrayAt interpretation ["document_blueprint", "sections"])
  units : ∀ n, requestedUnits interpretation exportFormat = some n → 1 ≤ n

/-! ## Texts -/

/-- A text that is not blank stays so when more text follows or precedes. -/
theorem notBlank_append_right {s t : String} (h : NotBlank t) : NotBlank (s ++ t) := by
  intro hblank
  apply h
  rw [Text.trim_eq_empty_iff] at hblank ⊢
  intro c hc
  exact hblank c (by simp [hc])

theorem notBlank_truncateField {s : String} {max : Nat} :
    NotBlank (truncateField s max) ↔ NotBlank s := by
  have hdots : NotBlank "..." := by decide
  unfold truncateField
  dsimp only
  split
  · unfold NotBlank
    rw [Text.trim_trim]
  · next hlong =>
    have hpos : NotBlank s := by
      intro hblank
      rw [hblank] at hlong
      exact hlong (Nat.zero_le _)
    exact iff_of_true (notBlank_append_right hdots) hpos

/-- A cut text keeps its bound in characters, the ellipsis included. -/
theorem length_truncateField {s : String} {max : Nat} (hmax : 3 ≤ max) :
    (truncateField s max).length ≤ max := by
  have hdots : ("...").length = 3 := rfl
  unfold truncateField
  dsimp only
  split
  · next hshort => exact hshort
  · rw [String.length_append, Text.length_takeChars, hdots]
    omega

/-- A cut text is what a bounded field needs exactly when it is not blank. -/
theorem hasText_truncateField {v : Json} {key s : String} {max : Nat}
    (hv : strAt v [key] = some (truncateField s max)) (hmax : 3 ≤ max) :
    HasText v key max ↔ NotBlank s := by
  unfold HasText
  simp only [hv, Option.some.injEq, exists_eq_left', notBlank_truncateField]
  exact and_iff_left (length_truncateField hmax)

/-- A text that is copied as it is. -/
theorem hasText_of_strAt {v : Json} {key s : String} {max : Nat} (hv : strAt v [key] = some s) :
    HasText v key max ↔ NotBlank s ∧ s.length ≤ max := by
  simp [HasText, hv]

theorem hasValue_of_strAt {v : Json} {key s : String} {allowed : List String}
    (hv : strAt v [key] = some s) (hs : s ∈ allowed) : HasValue v key allowed := ⟨s, hs, hv⟩

/-! ## Enumerations -/

theorem normalizeEmphasis_mem (raw : Option String) :
    normalizeEmphasis raw ∈ ["short", "medium", "long"] := by
  unfold normalizeEmphasis
  dsimp only
  split_ifs <;> decide

theorem normalizeAssessmentType_mem (P : Platform) (raw : String) :
    normalizeAssessmentType P raw ∈
      ["assessment", "activity", "reflection", "quiz", "assignment"] := by
  unfold normalizeAssessmentType
  dsimp only
  split_ifs <;> decide

theorem normalizeBodyBlockType_mem (P : Platform) (raw : String) :
    normalizeBodyBlockType P raw ∈ ["paragraph", "bullet", "checklist", "note"] := by
  unfold normalizeBodyBlockType
  dsimp only
  split_ifs <;> decide

/-! ## Sections -/

/-- A body block as the builder writes it. -/
def blockOf (type content : String) : Json := .obj [("type", type), ("content", content)]

theorem wellFormedBlock_blockOf {type content : String}
    (htype : type ∈ ["paragraph", "bullet", "checklist", "note"]) :
    WellFormedBlock (blockOf type content) ↔ NotBlank content ∧ content.length ≤ 1000 := by
  have hat : strAt (blockOf type content) ["content"] = some content := rfl
  constructor
  · intro h
    exact (hasText_of_strAt hat).1 h.content
  · intro h
    exact ⟨hasValue_of_strAt rfl htype, (hasText_of_strAt hat).2 h⟩

/-- The blocks of a section are made from its contents: each content is cut, and
the purpose stands in for a missing list as it is. -/
theorem wellFormedSection_buildSection {s : Json} {emphasis : Option String}
    {blocks : Option (List Json)} {contents : List String}
    (hnil : blocks.getD [] = [] ↔ contents = [])
    (hblocks : (∀ b ∈ blocks.getD [], WellFormedBlock b) ↔ ∀ c ∈ contents, NotBlank c) :
    WellFormedSection (buildSection s emphasis blocks) ↔ SectionFits s contents := by
  have htitle : strAt (buildSection s emphasis blocks) ["title"] =
      some (truncateField ((strAt s ["title"]).getD "Untitled Section") 200) := rfl
  have hpurpose : strAt (buildSection s emphasis blocks) ["purpose"] =
      some (truncateField ((strAt s ["purpose"]).getD "Section content") 500) := rfl
  have hemphasis : HasValue (buildSection s emphasis blocks) "emphasis"
      ["short", "medium", "long"] := hasValue_of_strAt rfl (normalizeEmphasis_mem emphasis)
  have htexts : HasText (buildSection s emphasis blocks) "title" 200 ∧
      HasText (buildSection s emphasis blocks) "purpose" 500 ↔
      NotBlank ((strAt s ["title"]).getD "Untitled Section") ∧
        NotBlank ((strAt s ["purpose"]).getD "Section content") :=
    and_congr (hasText_truncateField htitle (by omega)) (hasText_truncateField hpurpose (by omega))
  -- the list that is written: the given blocks, or the one block of the purpose
  cases hcase : blocks.getD [] with
  | nil =>
    have hcontents : contents = [] := hnil.1 hcase
    have hwritten : arrayAt (buildSection s emphasis blocks) ["body_blocks"] =
        some [blockOf "paragraph" ((strAt s ["purpose"]).getD "Section content")] := by
      cases blocks with
      | none => rfl
      | some bs =>
        have hbs : bs = [] := hcase
        rw [hbs]
        rfl
    have hblock := @wellFormedBlock_blockOf "paragraph"
      ((strAt s ["purpose"]).getD "Section content") (by decide)
    constructor
    · rintro ⟨ht, hp, ⟨bs, hbs, _, hall⟩, _⟩
      rw [hwritten] at hbs
      obtain rfl := Option.some.inj hbs
      have hfit := hblock.1 (hall _ (List.mem_singleton_self _))
      have hboth := htexts.1 ⟨ht, hp⟩
      exact ⟨hboth.1, hboth.2, by simp [hcontents], fun _ => hfit.2⟩
    · intro h
      have hboth := htexts.2 ⟨h.title, h.purpose⟩
      refine ⟨hboth.1, hboth.2, ⟨_, hwritten, List.cons_ne_nil _ _, ?_⟩, hemphasis⟩
      intro b hb
      rw [List.mem_singleton.1 hb]
      exact hblock.2 ⟨h.purpose, h.shortPurpose hcontents⟩
  | cons b bs =>
    have hcontents : contents ≠ [] := by
      intro he
      rw [hnil.2 he] at hcase
      cases hcase
    have hwritten : arrayAt (buildSection s emphasis blocks) ["body_blocks"] = some (b :: bs) := by
      cases blocks with
      | none => cases hcase
      | some cs =>
        have hcs : cs = b :: bs := hcase
        rw [hcs]
        rfl
    rw [hcase] at hblocks
    constructor
    · rintro ⟨ht, hp, ⟨cs, hcs, _, hall⟩, _⟩
      rw [hwritten] at hcs
      obtain rfl := Option.some.inj hcs
      have hboth := htexts.1 ⟨ht, hp⟩
      exact ⟨hboth.1, hboth.2, hblocks.1 hall, fun he => absurd he hcontents⟩
    · intro h
      have hboth := htexts.2 ⟨h.title, h.purpose⟩
      exact ⟨hboth.1, hboth.2, ⟨_, hwritten, List.cons_ne_nil _ _, hblocks.2 h.eachContent⟩,
        hemphasis⟩

/-- Blocks that are written one for each text that is not empty. -/
theorem blocks_of_texts {text : Json → Option String} {block : Json → Option Json}
    {type : Json → String} (htype : ∀ b, type b ∈ ["paragraph", "bullet", "checklist", "note"])
    (hblock : ∀ b, block b = if (text b).getD "" = "" then none
      else some (blockOf (type b) (truncateField ((text b).getD "") 1000)))
    (blocks : List Json) :
    (blocks.filterMap block = [] ↔ textsOf text (some blocks) = []) ∧
      ((∀ b ∈ blocks.filterMap block, WellFormedBlock b) ↔
        ∀ c ∈ textsOf text (some blocks), NotBlank c) := by
  unfold textsOf
  rw [Option.getD_some]
  induction blocks with
  | nil => simp
  | cons b bs ih =>
    cases htext : text b with
    | none =>
      have hb : block b = none := by simp [hblock, htext]
      rw [List.filterMap_cons_none hb, List.filterMap_cons_none htext]
      exact ih
    | some c =>
      rw [List.filterMap_cons_some htext]
      by_cases hc : c = ""
      · have hb : block b = none := by simp [hblock, htext, hc]
        rw [List.filterMap_cons_none hb, List.filter_cons_of_neg (by simp [hc])]
        exact ih
      · have hb : block b = some (blockOf (type b) (truncateField c 1000)) := by
          simp [hblock, htext, hc]
        have hwell : WellFormedBlock (blockOf (type b) (truncateField c 1000)) ↔ NotBlank c := by
          rw [wellFormedBlock_blockOf (htype b), notBlank_truncateField]
          exact and_iff_left (length_truncateField (by omega))
        rw [List.filterMap_cons_some hb, List.filter_cons_of_pos (by simp [hc])]
        constructor
        · simp
        · simp only [List.forall_mem_cons]
          exact and_congr hwell ih.2

/-- A section of a draft is well formed when its texts fit. -/
theorem wellFormedSection_draftSection {P : Platform} {s : Json} :
    WellFormedSection (draftSection P s) ↔ SectionFits s (draftTexts s) := by
  have hblocks := @blocks_of_texts (fun b => strAt b ["content"]) (draftBlock P)
    (fun b => normalizeBodyBlockType P ((strAt b ["type"]).getD "paragraph"))
    (fun b => normalizeBodyBlockType_mem P _) (fun b => rfl)
  unfold draftSection draftTexts
  cases arrayAt s ["body_blocks"] with
  | none => exact wellFormedSection_buildSection (iff_of_true rfl rfl) (by simp [textsOf])
  | some bs => exact wellFormedSection_buildSection (hblocks bs).1 (hblocks bs).2

/-- A section of the blueprint is well formed when its texts fit. -/
theorem wellFormedSection_blueprintSection {s : Json} :
    WellFormedSection (blueprintSection s) ↔ SectionFits s (blueprintTexts s) := by
  have hblocks := @blocks_of_texts Json.asStr bulletBlock (fun _ => "bullet")
    (fun _ => by decide) (fun b => rfl)
  unfold blueprintSection blueprintTexts
  cases arrayAt s ["bullets"] with
  | none => exact wellFormedSection_buildSection (iff_of_true rfl rfl) (by simp [textsOf])
  | some bs => exact wellFormedSection_buildSection (hblocks bs).1 (hblocks bs).2

/-- The default section cuts the prompt for its title only. -/
theorem wellFormedSection_defaultSection {teacherPrompt : String} :
    WellFormedSection (defaultSection teacherPrompt) ↔
      NotBlank teacherPrompt ∧ teacherPrompt.length ≤ 1000 := by
  have hblock := @wellFormedBlock_blockOf "paragraph" teacherPrompt (by decide)
  have hwritten : arrayAt (defaultSection teacherPrompt) ["body_blocks"] =
      some [blockOf "paragraph" teacherPrompt] := rfl
  constructor
  · rintro ⟨_, _, ⟨bs, hbs, _, hall⟩, _⟩
    rw [hwritten] at hbs
    obtain rfl := Option.some.inj hbs
    exact hblock.1 (hall _ (List.mem_singleton_self _))
  · intro h
    have hdots : NotBlank "..." := by decide
    have hlength : ("...").length = 3 := rfl
    have htitle : HasText (defaultSection teacherPrompt) "title" 200 := by
      rw [hasText_of_strAt rfl]
      split_ifs with hlong
      · refine ⟨notBlank_append_right hdots, ?_⟩
        rw [String.length_append, Text.length_takeChars, hlength]
        omega
      · exact ⟨h.1, not_lt.1 hlong⟩
    have hpurpose : HasText (defaultSection teacherPrompt) "purpose" 500 :=
      (hasText_of_strAt rfl).2 ⟨by decide, by decide⟩
    refine ⟨htitle, hpurpose, ⟨_, hwritten, List.cons_ne_nil _ _, ?_⟩,
      hasValue_of_strAt rfl (by decide)⟩
    intro b hb
    rw [List.mem_singleton.1 hb]
    exact hblock.2 h

/-- The sections of a spec, each made by the same function. -/
theorem wellFormed_sectionsOr {teacherPrompt : String} {sections : Option (List Json)}
    {make : Json → Json} {contents : Json → List String}
    (hmake : ∀ s, WellFormedSection (make s) ↔ SectionFits s (contents s)) :
    (∀ s ∈ sectionsOr teacherPrompt (sections.map fun ss => ss.map make), WellFormedSection s) ↔
      SectionsFit teacherPrompt contents sections := by
  have hdefault : (∀ s ∈ [defaultSection teacherPrompt], WellFormedSection s) ↔
      NotBlank teacherPrompt ∧ teacherPrompt.length ≤ 1000 := by
    simpa using wellFormedSection_defaultSection
  match sections with
  | none => exact hdefault
  | some [] => exact hdefault
  | some (t :: ts) =>
    show (∀ s ∈ (t :: ts).map make, WellFormedSection s) ↔ _
    rw [List.forall_mem_map]
    exact forall₂_congr fun s _ => hmake s

/-! ## The spec -/

/-- The sections of the spec: those of the draft, else those of the blueprint. -/
def specSections (P : Platform) (interpretation : Json) : Option Json → List Json
  | some d => sectionsOr (specPrompt interpretation)
      ((arrayAt (draftContent d) ["sections"]).map fun ss => ss.map (draftSection P))
  | none => sectionsOr (specPrompt interpretation)
      ((arrayAt interpretation ["document_blueprint", "sections"]).map
        fun ss => ss.map blueprintSection)

/-- The assessment blocks of the spec. -/
def specAssessments (P : Platform) (interpretation : Json) : List Json :=
  ((arrayAt interpretation ["assessment_or_activity_blocks"]).getD []).filterMap
    (assessmentBlock P)

/-- The assets of the spec. -/
def specAssets (interpretation : Json) : List Json :=
  ((arrayAt interpretation ["assets"]).getD []).map specAsset

theorem specSections_wellFormed {P : Platform} {interpretation : Json} {draft : Option Json} :
    (∀ s ∈ specSections P interpretation draft, WellFormedSection s) ↔
      match draft with
      | some d => SectionsFit (specPrompt interpretation) draftTexts
          (arrayAt (draftContent d) ["sections"])
      | none => SectionsFit (specPrompt interpretation) blueprintTexts
          (arrayAt interpretation ["document_blueprint", "sections"]) := by
  cases draft with
  | none => exact wellFormed_sectionsOr fun s => wellFormedSection_blueprintSection
  | some d => exact wellFormed_sectionsOr fun s => wellFormedSection_draftSection

theorem specAssessments_type {P : Platform} {interpretation a : Json}
    (ha : a ∈ specAssessments P interpretation) :
    HasValue a "type" ["assessment", "activity", "reflection", "quiz", "assignment"] := by
  obtain ⟨b, _, hb⟩ := List.mem_filterMap.1 ha
  unfold assessmentBlock at hb
  dsimp only at hb
  split at hb
  · cases hb
  · obtain rfl := Option.some.inj hb
    exact hasValue_of_strAt rfl (normalizeAssessmentType_mem P _)

theorem specAssets_type {interpretation a : Json} (ha : a ∈ specAssets interpretation) :
    HasValue a "type" ["text", "image", "table", "chart", "diagram", "reference"] := by
  obtain ⟨b, _, rfl⟩ := List.mem_map.1 ha
  by_cases h : (strAt b ["type"]).getD "text" ∈
      ["text", "image", "table", "chart", "diagram", "reference"]
  · have hat : strAt (specAsset b) ["type"] = some ((strAt b ["type"]).getD "text") := by
      simp only [specAsset, h, if_true]
      rfl
    exact hasValue_of_strAt hat h
  · have hat : strAt (specAsset b) ["type"] = some "text" := by
      simp only [specAsset, h, if_false]
      rfl
    exact hasValue_of_strAt hat (by decide)

section Spec

variable (P : Platform) (interpretation : Json) (exportFormat : String) (draft : Option Json)

theorem arrayAt_sections :
    arrayAt (buildGenerationSpec P interpretation exportFormat draft) ["sections"] =
      some (specSections P interpretation draft) := by
  cases draft <;> rfl

theorem arrayAt_assessments :
    arrayAt (buildGenerationSpec P interpretation exportFormat draft)
      ["assessment_or_activity_blocks"] = some (specAssessments P interpretation) := rfl

theorem arrayAt_assets :
    arrayAt (buildGenerationSpec P interpretation exportFormat draft) ["assets"] =
      some (specAssets interpretation) := rfl

theorem intAt_totalUnits :
    intAt (buildGenerationSpec P interpretation exportFormat draft)
      ["page_or_slide_structure", "total_units"] =
      some ((requestedUnits interpretation exportFormat).getD
        (1 + ((specSections P interpretation draft).length : Int) +
          if (specAssessments P interpretation).isEmpty then 0 else 1)) := by
  cases draft <;> rfl

/-- The number of units is the requested one, else it is counted from one. -/
theorem totalUnits_iff :
    (∃ n, intAt (buildGenerationSpec P interpretation exportFormat draft)
      ["page_or_slide_structure", "total_units"] = some n ∧ 1 ≤ n) ↔
      ∀ n, requestedUnits interpretation exportFormat = some n → 1 ≤ n := by
  rw [intAt_totalUnits]
  cases requestedUnits interpretation exportFormat with
  | none =>
    refine iff_of_true ⟨_, rfl, ?_⟩ (by simp)
    rw [Option.getD_none]
    split_ifs <;> omega
  | some n => simp

end Spec

/-- The spec keeps the promise of its comment exactly when the texts it is built
from fit. -/
theorem generationSpec_wellFormed_iff (P : Platform) (interpretation : Json)
    (exportFormat : String) (draft : Option Json) :
    WellFormed (buildGenerationSpec P interpretation exportFormat draft) ↔
      SpecInputsFit interpretation exportFormat draft := by
  have htitle := @hasText_truncateField
    (buildGenerationSpec P interpretation exportFormat draft) "title" _ 200 rfl (by omega)
  have hsummary := @hasText_truncateField
    (buildGenerationSpec P interpretation exportFormat draft) "summary" _ 1000 rfl (by omega)
  have hdelivery := @hasText_truncateField
    (buildGenerationSpec P interpretation exportFormat draft) "teacher_delivery_summary" _ 1000
    rfl (by omega)
  have hlanguage : strAt (buildGenerationSpec P interpretation exportFormat draft) ["language"] =
      some ((strAt interpretation ["language"]).getD "id") := rfl
  have hunits := totalUnits_iff P interpretation exportFormat draft
  constructor
  · rintro ⟨sections, assessments, assets, h⟩
    have hsections := h.sectionsAt
    rw [arrayAt_sections] at hsections
    obtain rfl := Option.some.inj hsections
    obtain ⟨language, hat, hnotBlank⟩ := h.language
    rw [hlanguage] at hat
    obtain rfl := Option.some.inj hat
    exact ⟨htitle.1 h.title, hsummary.1 h.summary, hdelivery.1 h.deliverySummary, hnotBlank,
      specSections_wellFormed.1 h.eachSection, hunits.1 h.totalUnits⟩
  · intro h
    refine ⟨specSections P interpretation draft, specAssessments P interpretation,
      specAssets interpretation, ?_⟩
    exact {
      title := htitle.2 h.title
      summary := hsummary.2 h.summary
      deliverySummary := hdelivery.2 h.deliverySummary
      language := ⟨_, hlanguage, h.language⟩
      sectionsAt := arrayAt_sections ..
      eachSection := specSections_wellFormed.2 h.sections
      assessmentsAt := arrayAt_assessments ..
      eachAssessment := fun _ ha => specAssessments_type ha
      assetsAt := arrayAt_assets ..
      eachAsset := fun _ ha => specAssets_type ha
      sectionCount := by cases draft <;> rfl
      assetCount := rfl
      assessmentCount := rfl
      sectionUnits := by cases draft <;> rfl
      totalUnits := hunits.2 h.units }

/-- A completion whose blueprint has a blank title. -/
def blankBlueprint : Json :=
  .obj [("teacher_prompt", "fotosintesis"), ("document_blueprint", .obj [("title", " ")])]

/-- A blank title is accepted as an interpretation and becomes an empty one. -/
theorem blankTitle_illFormed : ∃ p,
    decodeAndValidate asciiContracts blankBlueprint = some p ∧
      ¬ WellFormed (buildGenerationSpec asciiContracts.toPlatform p.toJson "pdf" none) := by
  have htitle : (decodeAndValidate asciiContracts blankBlueprint).map
      (fun p => strAt (buildGenerationSpec asciiContracts.toPlatform p.toJson "pdf" none)
        ["title"]) = some (some "") := by decide +kernel
  obtain ⟨p, hp, hempty⟩ := Option.map_eq_some_iff.1 htitle
  refine ⟨p, hp, ?_⟩
  rintro ⟨_, _, _, h⟩
  obtain ⟨title, hat, hnotBlank, _⟩ := h.title
  rw [hempty] at hat
  obtain rfl := Option.some.inj hat
  exact hnotBlank rfl

end KlassGateway.Orchestrator
