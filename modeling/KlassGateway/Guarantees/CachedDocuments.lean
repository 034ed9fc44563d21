import KlassGateway.Llm.DocumentRequests
import Mathlib.Logic.Equiv.Basic
/-!
# Cached documents

A cached draft or delivery response answers every request with its cache key.  The
keys of both services leave out fields that the user message is made of.

* `sameRequest_iff`: two requests with one key send one completion request exactly
  if they agree on these fields.
* `draft_key_ignores_language`: two drafts in two languages share their key.
-/

namespace KlassGateway.Llm

open Lib Contracts Cache
open Lib.Json (textArray)

/-! ## Values in the messages -/

@[simp] theorem textArray_inj {xs ys : List String} : textArray xs = textArray ys ↔ xs = ys := by
  have hstr : Function.Injective Json.str := fun _ _ h => Json.str.inj h
  simp [textArray, hstr.list_map.eq_iff]

/-- A nullable value is determined, if the value itself is. -/
theorem ofOption_inj {α : Type} {f : α → Json} (hf : Function.Injective f)
    (hnull : ∀ a, f a ≠ .null) {o p : Option α} :
    Json.ofOption f o = Json.ofOption f p ↔ o = p := by
  cases o with
  | none =>
    cases p with
    | none => simp
    | some b => simp [Json.ofOption, (hnull b).symm]
  | some a =>
    cases p with
    | none => simp [Json.ofOption, hnull a]
    | some b => simp [Json.ofOption, hf.eq_iff]

@[simp] theorem ofOption_str_inj {s t : Option String} :
    Json.ofOption .str s = Json.ofOption .str t ↔ s = t :=
  ofOption_inj (fun _ _ h => Json.str.inj h) (fun _ h => by cases h)

/-! ## Content drafts -/

namespace Draft

/-- The parts of the message that the key of a draft leaves out. -/
structure Unkeyed where
  learningObjectives : List String
  sections : List PromptInterpretation.BlueprintSection
  language : String
  goal : String
  pageCount : Option String
  slideCount : Option String
  preferredOutputType : String
  mustInclude : List String
  avoid : List String
  tone : Option String
  taxonomyHint : Option TaxonomyHint

/-- These parts of an input. -/
def unkeyed (input : Input) : Unkeyed where
  learningObjectives := input.interpretation.learningObjectives
  sections := input.interpretation.documentBlueprint.sections
  language := input.interpretation.language
  goal := input.interpretation.teacherIntent.goal
  pageCount := input.interpretation.interpretedFields.bind fun f => f.pageCount
  slideCount := input.interpretation.interpretedFields.bind fun f => f.slideCount
  preferredOutputType := input.interpretation.constraints.preferredOutputType
  mustInclude := input.interpretation.constraints.mustInclude
  avoid := input.interpretation.constraints.avoid
  tone := input.interpretation.constraints.tone
  taxonomyHint := input.taxonomyHint

theorem sectionPayload_injective : Function.Injective sectionPayload := by
  rintro ⟨_, _, _, _⟩ ⟨_, _, _, _⟩ h
  simpa [sectionPayload] using h

theorem hintPayload_injective : Function.Injective hintPayload := by
  rintro ⟨_, _, _, _, _, _⟩ ⟨_, _, _, _, _, _⟩ h
  have hnum : ∀ {m n : Option Int}, Json.ofOption (fun n : Int => .num (.int n)) m =
      Json.ofOption (fun n : Int => .num (.int n)) n ↔ m = n :=
    ofOption_inj (fun _ _ h => by simpa using h) (fun _ h => by cases h)
  simpa [hintPayload, hnum] using h

theorem distinctKeys_cacheInputPayload (input : Input) :
    (cacheInputPayload input).DistinctKeys := by
  simp [cacheInputPayload]

/-- Drafts with one key have one model and instruction, and agree on the parts of the
message that the key has. -/
theorem cacheKey_inj {P : Platform} (hnumber : Json.NumberText (numberText P))
    (hdigest : Function.Injective P.sha256Hex) {cfg : DocumentConfig} {a b : Input}
    (h : cacheKey P cfg a = cacheKey P cfg b) :
    model cfg a = model cfg b ∧ instruction cfg a = instruction cfg b ∧
      a.resolvedOutputType = b.resolvedOutputType ∧
      a.interpretation.documentBlueprint.title = b.interpretation.documentBlueprint.title ∧
      a.interpretation.documentBlueprint.summary = b.interpretation.documentBlueprint.summary ∧
      a.interpretation.teacherPrompt = b.interpretation.teacherPrompt := by
  obtain ⟨hmodel, hinstruction, hequiv⟩ := buildCacheKey_inj hnumber hdigest
    (distinctKeys_cacheInputPayload a) (distinctKeys_cacheInputPayload b) h
  rw [cacheInputPayload, cacheInputPayload, Json.keyEquiv_obj_iff] at hequiv
  · simp only [List.map_cons, List.forall₂_cons, Json.keyEquiv_str] at hequiv
    exact ⟨hmodel, hinstruction, hequiv.1, hequiv.2.1, hequiv.2.2.1, hequiv.2.2.2.1⟩
  · rfl
  · simp

/-- Drafts with one key send one request exactly if they agree on what the key leaves
out. -/
theorem completionRequest_eq_iff {P : Platform} (hnumber : Json.NumberText (numberText P))
    (hdigest : Function.Injective P.sha256Hex) {cfg : DocumentConfig} {a b : Input}
    (h : cacheKey P cfg a = cacheKey P cfg b) :
    completionRequest cfg a = completionRequest cfg b ↔ unkeyed a = unkeyed b := by
  obtain ⟨hmodel, hinstruction, htype, htitle, hsummary, hprompt⟩ :=
    cacheKey_inj hnumber hdigest h
  have hhint : Json.ofOption hintPayload a.taxonomyHint =
      Json.ofOption hintPayload b.taxonomyHint ↔ a.taxonomyHint = b.taxonomyHint :=
    ofOption_inj hintPayload_injective (fun _ h => by cases h)
  simp [completionRequest, userPayload, unkeyed, hmodel, hinstruction, htype, htitle, hsummary,
    hprompt, hhint, sectionPayload_injective.list_map.eq_iff, and_assoc]

end Draft

/-! ## Delivery responses -/

namespace Respond

/-- The parts of the message that the key of a delivery response leaves out. -/
structure Unkeyed where
  thumbnailUrl : Option String
  filename : Option String
  recommendedProject : Option EntityNode

/-- These parts of an input. -/
def unkeyed (input : Input) : Unkeyed where
  thumbnailUrl := input.artifact.thumbnailUrl
  filename := input.artifact.filename
  recommendedProject := input.publication.recommendedProject

theorem nodePayload_inj {m n : EntityNode} : nodePayload m = nodePayload n ↔ m = n := by
  cases m
  cases n
  simp [nodePayload]

theorem keyEquiv_nodePayload {m n : EntityNode} :
    Json.KeyEquiv (nodePayload m) (nodePayload n) ↔ m = n := by
  rw [nodePayload, nodePayload, Json.keyEquiv_obj_iff]
  · cases m
    cases n
    simp
  · rfl
  · simp

theorem distinctKeys_cacheInputPayload (input : Input) :
    (cacheInputPayload input).DistinctKeys := by
  simp [cacheInputPayload, nodePayload]

/-- Delivery requests with one key have one model and instruction, and agree on the
parts of the message that the key has. -/
theorem cacheKey_inj {P : Platform} (hnumber : Json.NumberText (numberText P))
    (hdigest : Function.Injective P.sha256Hex) {cfg : DocumentConfig} {a b : Input}
    (h : cacheKey P cfg a = cacheKey P cfg b) :
    model cfg a = model cfg b ∧ instruction cfg a = instruction cfg b ∧ a.title = b.title ∧
      a.previewSummary = b.previewSummary ∧
      (a.artifact.outputType = b.artifact.outputType ∧ a.artifact.fileUrl = b.artifact.fileUrl ∧
        a.artifact.mimeType = b.artifact.mimeType) ∧
      a.publication.topic = b.publication.topic ∧ a.publication.content = b.publication.content := by
  obtain ⟨hmodel, hinstruction, hequiv⟩ := buildCacheKey_inj hnumber hdigest
    (distinctKeys_cacheInputPayload a) (distinctKeys_cacheInputPayload b) h
  have hnode : ∀ {m n : Option EntityNode}, Json.KeyEquiv (Json.ofOption nodePayload m)
      (Json.ofOption nodePayload n) ↔ m = n :=
    Json.keyEquiv_ofOption (fun _ h => by cases h) fun _ _ => keyEquiv_nodePayload
  rw [cacheInputPayload, cacheInputPayload, Json.keyEquiv_obj_iff] at hequiv
  · simp only [List.map_cons, List.map_nil, List.forall₂_cons, Json.keyEquiv_str, hnode] at hequiv
    obtain ⟨htitle, hsummary, hartifact, htopic, hcontent, _⟩ := hequiv
    rw [Json.keyEquiv_obj_iff] at hartifact
    · simp only [List.map_cons, List.map_nil, List.forall₂_cons, Json.keyEquiv_str,
        List.forall₂_nil_left_iff, and_true] at hartifact
      exact ⟨hmodel, hinstruction, htitle, hsummary, hartifact, htopic, hcontent⟩
    · rfl
    · simp
  · rfl
  · simp

/-- Delivery requests with one key send one request exactly if they agree on what the
key leaves out. -/
theorem completionRequest_eq_iff {P : Platform} (hnumber : Json.NumberText (numberText P))
    (hdigest : Function.Injective P.sha256Hex) {cfg : DocumentConfig} {a b : Input}
    (h : cacheKey P cfg a = cacheKey P cfg b) :
    completionRequest cfg a = completionRequest cfg b ↔ unkeyed a = unkeyed b := by
  obtain ⟨hmodel, hinstruction, htitle, hsummary, ⟨htype, hurl, hmime⟩, htopic, hcontent⟩ :=
    cacheKey_inj hnumber hdigest h
  have hnode : ∀ {m n : Option EntityNode}, Json.ofOption nodePayload m =
      Json.ofOption nodePayload n ↔ m = n :=
    ofOption_inj (fun _ _ h => nodePayload_inj.1 h) (fun _ h => by cases h)
  simp [completionRequest, userPayload, unkeyed, hmodel, hinstruction, htype, htitle, hsummary,
    hurl, hmime, htopic, hcontent, hnode, and_assoc]

end Respond

/-! ## Both services -/

/-- Two requests of one of the services that have one key send one completion request
exactly if they agree on the parts of the message that the key leaves out. -/
theorem sameRequest_iff {P : Platform} (hnumber : Json.NumberText (numberText P))
    (hdigest : Function.Injective P.sha256Hex) (cfg : DocumentConfig) :
    (∀ a b : Draft.Input, Draft.cacheKey P cfg a = Draft.cacheKey P cfg b →
      (Draft.completionRequest cfg a = Draft.completionRequest cfg b ↔
        Draft.unkeyed a = Draft.unkeyed b)) ∧
      ∀ a b : Respond.Input, Respond.cacheKey P cfg a = Respond.cacheKey P cfg b →
        (Respond.completionRequest cfg a = Respond.completionRequest cfg b ↔
          Respond.unkeyed a = Respond.unkeyed b) :=
  ⟨fun _ _ => Draft.completionRequest_eq_iff hnumber hdigest,
    fun _ _ => Respond.completionRequest_eq_iff hnumber hdigest⟩

/-- A configuration. -/
def sampleConfig : DocumentConfig where
  defaultModel := "minimax/minimax-m3"
  defaultInstruction := "Draft the material."
  pptxInstruction := "Draft the slides."

/-- A draft of a PDF file in a language. -/
def sampleDraft (language : String) : Draft.Input where
  resolvedOutputType := "pdf"
  interpretation :=
    { schemaVersion := PromptInterpretation.schemaVersion
      teacherPrompt := "photosynthesis"
      language
      teacherIntent :=
        { type := "generate_material"
          goal := "photosynthesis"
          preferredDeliveryMode := "digital_download"
          requiresClarification := false }
      constraints := {}
      outputTypeCandidates := []
      resolvedOutputTypeReasoning := ""
      documentBlueprint := { title := "Photosynthesis", summary := "Light", sections := [] }
      teacherDeliverySummary := ""
      confidence := { score := .finite 1, label := "high" } }

/-- The language is no part of the key. -/
theorem cacheKey_sampleDraft (P : Platform) (l l' : String) :
    Draft.cacheKey P sampleConfig (sampleDraft l) = Draft.cacheKey P sampleConfig (sampleDraft l') := by
  have hinput : Draft.cacheInputPayload (sampleDraft l) = Draft.cacheInputPayload (sampleDraft l') :=
    rfl
  have hmodel : Draft.model sampleConfig (sampleDraft l) =
      Draft.model sampleConfig (sampleDraft l') := rfl
  have hinstruction : Draft.instruction sampleConfig (sampleDraft l) =
      Draft.instruction sampleConfig (sampleDraft l') := rfl
  rw [Draft.cacheKey, Draft.cacheKey, hinput, hmodel, hinstruction]

/-- The digest of the key document of these drafts. -/
def sampleDigest : String := "1cb32960c68ce0fdcd614eab19a42d71b2a8b739e6100511b43d6565e41aa6aa"

/-- A platform that has this digest, and otherwise distinct ones. -/
def digestPlatform : Platform where
  __ := samplePlatform
  sha256Hex := Equiv.swap (Draft.cacheKey samplePlatform sampleConfig (sampleDraft "id")) sampleDigest

theorem numberText_digestPlatform : numberText digestPlatform = numberText samplePlatform := by
  unfold numberText digestPlatform
  rfl

/-- The draft in Indonesian has the key. -/
theorem cacheKey_digestPlatform :
    Draft.cacheKey digestPlatform sampleConfig (sampleDraft "id") = sampleDigest := by
  have hlower : digestPlatform.toLowercase = samplePlatform.toLowercase := by
    unfold digestPlatform
    rfl
  have hkey : Draft.cacheKey digestPlatform sampleConfig (sampleDraft "id") =
      digestPlatform.sha256Hex (Draft.cacheKey samplePlatform sampleConfig (sampleDraft "id")) := by
    simp only [Draft.cacheKey, buildCacheKey, keyDocument, toCanonicalJsonString,
      numberText_digestPlatform, hlower]
    rw [show samplePlatform.sha256Hex = id from rfl, id]
  rw [hkey]
  unfold digestPlatform
  exact Equiv.swap_apply_left _ _

/-- Two languages make two requests with one key. -/
theorem sameRequest_iff_sample :
    Draft.cacheKey digestPlatform sampleConfig (sampleDraft "id") = sampleDigest ∧
      Draft.completionRequest sampleConfig (sampleDraft "id") ≠
        Draft.completionRequest sampleConfig (sampleDraft "en") := by
  have hnumber : Json.NumberText (numberText digestPlatform) := by
    rw [numberText_digestPlatform]
    exact numberText_sample
  have hiff := (sameRequest_iff (P := digestPlatform) hnumber (Equiv.injective _) sampleConfig).1
    (sampleDraft "id") (sampleDraft "en") (cacheKey_sampleDraft _ _ _)
  refine ⟨cacheKey_digestPlatform, ?_⟩
  rw [ne_eq, hiff]
  simp [Draft.unkeyed, sampleDraft]

/-- The draft in English has the key of the one in Indonesian, for which another message
is sent. -/
theorem draft_key_ignores_language :
    Draft.cacheKey digestPlatform sampleConfig (sampleDraft "en") =
        Draft.cacheKey digestPlatform sampleConfig (sampleDraft "id") ∧
      Draft.userPayload (sampleDraft "en") ≠ Draft.userPayload (sampleDraft "id") := by
  refine ⟨cacheKey_sampleDraft _ _ _, ?_⟩
  simp [Draft.userPayload, sampleDraft]

end KlassGateway.Llm
