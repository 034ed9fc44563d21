import KlassGateway.Contracts.Bounds
/-!
# The delivery contract

Model of `contracts/delivery.rs`, schema version
`media_delivery_response.v1`: the records with their validation rules, decoding,
and the fallback.

A record's `Valid` are its garde rules, and its `decode` is the derived
`Deserialize`.  A completion is given as the value that the JSON parser makes of
it.

* `fallback_valid_iff`: the fallback exists and is valid exactly when none of
  its three cut texts would be cut inside a character.
-/

namespace KlassGateway.Contracts.Delivery

open Lib Lib.Json

/-- `SCHEMA_VERSION`. -/
def schemaVersion : String := "media_delivery_response.v1"

theorem nonEmpty_schemaVersion : NonEmpty schemaVersion := by decide

/-! ## Records -/

/-- `DeliveryArtifact`. -/
structure DeliveryArtifact where
  outputType : String
  title : String
  fileUrl : String
  thumbnailUrl : Option String := none
  mimeType : String
  filename : Option String := none

/-- `TopicNode`. -/
structure TopicNode where
  id : String
  title : String

/-- `ContentNode`. -/
structure ContentNode where
  id : String
  title : String
  type : Option String := none
  mediaUrl : Option String := none

/-- `RecommendedProjectNode`. -/
structure RecommendedProjectNode where
  id : String
  title : String
  projectFileUrl : Option String := none

/-- `Publication`.  Its nodes are not validated. -/
structure Publication where
  topic : Option TopicNode := none
  content : Option ContentNode := none
  recommendedProject : Option RecommendedProjectNode := none

/-- `ResponseMeta`. -/
structure ResponseMeta where
  generatedAt : String
  llmUsed : Bool
  provider : Option String := none
  model : Option String := none

/-- `DeliveryFallback`. -/
structure DeliveryFallback where
  triggered : Bool := false
  reasonCode : Option String := none
  action : Option String := none

/-- `DeliveryResponsePayload`. -/
structure DeliveryResponsePayload where
  schemaVersion : String
  title : String
  previewSummary : String
  teacherMessage : String
  recommendedNextSteps : List String := []
  classroomTips : List String := []
  artifact : DeliveryArtifact
  publication : Publication
  responseMeta : ResponseMeta
  fallback : DeliveryFallback := {}

/-! ## Validation -/

/-- The rules of `DeliveryArtifact`. -/
def DeliveryArtifact.Valid (a : DeliveryArtifact) : Prop :=
  HasLength 1 100 a.outputType ∧ HasLength 1 200 a.title ∧ HasLength 1 2048 a.fileUrl ∧
    HasLength 1 255 a.mimeType

instance (a : DeliveryArtifact) : Decidable a.Valid := inferInstanceAs (Decidable (_ ∧ _))

/-- The rules of `ResponseMeta`. -/
def ResponseMeta.Valid (m : ResponseMeta) : Prop := HasLength 1 100 m.generatedAt

instance (m : ResponseMeta) : Decidable m.Valid := inferInstanceAs (Decidable (HasLength _ _ _))

/-- The rules of `DeliveryResponsePayload`. -/
def DeliveryResponsePayload.Valid (p : DeliveryResponsePayload) : Prop :=
  NonEmpty p.schemaVersion ∧ HasLength 1 200 p.title ∧ HasLength 1 1000 p.previewSummary ∧
    HasLength 1 2000 p.teacherMessage ∧ p.artifact.Valid ∧ p.responseMeta.Valid

instance (p : DeliveryResponsePayload) : Decidable p.Valid := inferInstanceAs (Decidable (_ ∧ _))

/-! ## Decoding -/

/-- The derived `Deserialize` of `DeliveryArtifact`. -/
def DeliveryArtifact.decode : Decoder DeliveryArtifact :=
  record ["output_type", "title", "file_url", "thumbnail_url", "mime_type", "filename"] 5 fun v => do
    let outputType ← field "output_type" asStr v
    let title ← field "title" asStr v
    let fileUrl ← field "file_url" asStr v
    let thumbnailUrl ← optionalText "thumbnail_url" v
    let mimeType ← field "mime_type" asStr v
    let filename ← optionalText "filename" v
    return { outputType, title, fileUrl, thumbnailUrl, mimeType, filename }

/-- The derived `Deserialize` of `TopicNode`. -/
def TopicNode.decode : Decoder TopicNode := record ["id", "title"] 2 fun v => do
  let id ← field "id" asStr v
  let title ← field "title" asStr v
  return { id, title }

/-- The derived `Deserialize` of `ContentNode`. -/
def ContentNode.decode : Decoder ContentNode := record ["id", "title", "type", "media_url"] 2 fun v => do
  let id ← field "id" asStr v
  let title ← field "title" asStr v
  let type ← optionalText "type" v
  let mediaUrl ← optionalText "media_url" v
  return { id, title, type, mediaUrl }

/-- The derived `Deserialize` of `RecommendedProjectNode`. -/
def RecommendedProjectNode.decode : Decoder RecommendedProjectNode :=
  record ["id", "title", "project_file_url"] 2 fun v => do
    let id ← field "id" asStr v
    let title ← field "title" asStr v
    let projectFileUrl ← optionalText "project_file_url" v
    return { id, title, projectFileUrl }

/-- The derived `Deserialize` of `Publication`. -/
def Publication.decode : Decoder Publication :=
  record ["topic", "content", "recommended_project"] 0 fun v => do
    let topic ← fieldOr "topic" none (nullable TopicNode.decode) v
    let content ← fieldOr "content" none (nullable ContentNode.decode) v
    let recommendedProject ←
      fieldOr "recommended_project" none (nullable RecommendedProjectNode.decode) v
    return { topic, content, recommendedProject }

/-- The derived `Deserialize` of `ResponseMeta`. -/
def ResponseMeta.decode : Decoder ResponseMeta :=
  record ["generated_at", "llm_used", "provider", "model"] 2 fun v => do
    let generatedAt ← field "generated_at" asStr v
    let llmUsed ← field "llm_used" asBool v
    let provider ← optionalText "provider" v
    let model ← optionalText "model" v
    return { generatedAt, llmUsed, provider, model }

/-- The derived `Deserialize` of `DeliveryFallback`. -/
def DeliveryFallback.decode : Decoder DeliveryFallback :=
  record ["triggered", "reason_code", "action"] 0 fun v => do
    let triggered ← fieldOr "triggered" false asBool v
    let reasonCode ← optionalText "reason_code" v
    let action ← optionalText "action" v
    return { triggered, reasonCode, action }

/-- The derived `Deserialize` of `DeliveryResponsePayload`. -/
def DeliveryResponsePayload.decode : Decoder DeliveryResponsePayload :=
  record ["schema_version", "title", "preview_summary", "teacher_message", "recommended_next_steps",
    "classroom_tips", "artifact", "publication", "response_meta", "fallback"] 9 fun v => do
    let schemaVersion ← field "schema_version" asStr v
    let title ← field "title" asStr v
    let previewSummary ← field "preview_summary" asStr v
    let teacherMessage ← field "teacher_message" asStr v
    let recommendedNextSteps ← fieldOr "recommended_next_steps" [] (list asStr) v
    let classroomTips ← fieldOr "classroom_tips" [] (list asStr) v
    let artifact ← field "artifact" DeliveryArtifact.decode v
    let publication ← field "publication" Publication.decode v
    let responseMeta ← field "response_meta" ResponseMeta.decode v
    let fallback ← fieldOr "fallback" {} DeliveryFallback.decode v
    return { schemaVersion, title, previewSummary, teacherMessage, recommendedNextSteps,
             classroomTips, artifact, publication, responseMeta, fallback }

/-- `decode_and_validate`: the payload, unless it does not decode or breaks a
rule. -/
def decodeAndValidate (completion : Json) : Option DeliveryResponsePayload :=
  (DeliveryResponsePayload.decode completion).filter fun p => p.Valid

/-! ## The fallback -/

/-- `truncate`: at a byte offset.  `none` is the panic of a slice that ends
inside a character. -/
def truncate (value : String) (max : Nat) : Option String :=
  let trimmed := Text.trim value
  if trimmed.utf8ByteSize ≤ max then some trimmed
  else (Text.takeBytes trimmed (max - 3)).map fun s => s ++ "..."

/-- `fallback`, if it does not panic. -/
def fallback (P : Platform) (now : DateTime)
    (title previewSummary outputType fileUrl mimeType : String) :
    Option DeliveryResponsePayload := do
  let cutTitle ← truncate title 200
  let cutSummary ← truncate previewSummary 1000
  let artifactTitle ← truncate title 200
  let cutMimeType ← truncate mimeType 255
  return {
    schemaVersion := schemaVersion
    title := cutTitle
    previewSummary := cutSummary
    teacherMessage := "Your " ++ outputType ++
      " has been generated. You can download it from the provided link."
    artifact := { outputType, title := artifactTitle, fileUrl, mimeType := cutMimeType }
    publication := {}
    responseMeta := { generatedAt := P.rfc3339 now, llmUsed := false }
    fallback := {
      triggered := true
      reasonCode := some "provider_response_contract_invalid"
      action := some "fallback_from_delivery" } }

/-- `truncate` does not cut inside a character. -/
def CutsCleanly (value : String) (max : Nat) : Prop :=
  (Text.trim value).utf8ByteSize ≤ max ∨ (Text.takeBytes (Text.trim value) (max - 3)).isSome

instance (value : String) (max : Nat) : Decidable (CutsCleanly value max) :=
  inferInstanceAs (Decidable (_ ∨ _))

theorem truncate_isSome_iff {value : String} {max : Nat} :
    (truncate value max).isSome ↔ CutsCleanly value max := by
  unfold truncate CutsCleanly
  dsimp only
  split
  · next h => simp [h]
  · next h => simp [h]

/-- What `truncate` returns is within the bound, and not empty if the text is
not blank. -/
theorem hasLength_truncate {value s : String} {max : Nat} (hmax : 3 ≤ max)
    (hvalue : Text.trim value ≠ "") (hs : truncate value max = some s) : HasLength 1 max s := by
  unfold truncate at hs
  dsimp only at hs
  split at hs
  · next hle =>
    cases hs
    exact hasLength_iff.2 ⟨hvalue, hle⟩
  · obtain ⟨t, ht, rfl⟩ := Option.map_eq_some_iff.1 hs
    have hsize := Text.utf8ByteSize_takeBytes ht
    have hdots : ("...").utf8ByteSize = 3 := by decide
    rw [HasLength, String.utf8ByteSize_append, hsize, hdots]
    omega

/-- The message of the fallback around an output type within its bound. -/
theorem hasLength_teacherMessage {outputType : String} (h : HasLength 1 100 outputType) :
    HasLength 1 2000 ("Your " ++ outputType ++
      " has been generated. You can download it from the provided link.") := by
  have hhead : ("Your ").utf8ByteSize = 5 := by decide
  have htail :
      (" has been generated. You can download it from the provided link.").utf8ByteSize = 64 := by
    decide
  unfold HasLength at h ⊢
  rw [String.utf8ByteSize_append, String.utf8ByteSize_append, hhead, htail]
  omega

/-- For texts that are not blank, an output type and a URL within their bounds
and a time stamp within its own, the fallback is there and valid exactly when
none of its cuts falls inside a character. -/
theorem fallback_valid_iff {P : Platform} {now : DateTime}
    {title previewSummary outputType fileUrl mimeType : String}
    (htitle : Text.trim title ≠ "") (hsummary : Text.trim previewSummary ≠ "")
    (htype : HasLength 1 100 outputType) (hurl : HasLength 1 2048 fileUrl)
    (hmime : Text.trim mimeType ≠ "") (hstamp : HasLength 1 100 (P.rfc3339 now)) :
    Yields (fallback P now title previewSummary outputType fileUrl mimeType)
        DeliveryResponsePayload.Valid ↔
      CutsCleanly title 200 ∧ CutsCleanly previewSummary 1000 ∧ CutsCleanly mimeType 255 := by
  rw [← truncate_isSome_iff, ← truncate_isSome_iff, ← truncate_isSome_iff]
  constructor
  · intro h
    simp only [fallback, yields_seq] at h
    obtain ⟨cutTitle, ht, cutSummary, hs, _, _, cutMimeType, hm, _⟩ := h
    simp [ht, hs, hm]
  · rintro ⟨ht, hs, hm⟩
    obtain ⟨cutTitle, ht⟩ := Option.isSome_iff_exists.1 ht
    obtain ⟨cutSummary, hs⟩ := Option.isSome_iff_exists.1 hs
    obtain ⟨cutMimeType, hm⟩ := Option.isSome_iff_exists.1 hm
    have hcut := hasLength_truncate (by omega) htitle ht
    simp only [fallback, ht, hs, hm, yields_seq, yields_some, yields_pure]
    exact ⟨nonEmpty_schemaVersion, hcut, hasLength_truncate (by omega) hsummary hs,
      hasLength_teacherMessage htype,
      ⟨htype, hcut, hurl, hasLength_truncate (by omega) hmime hm⟩, hstamp⟩

end KlassGateway.Contracts.Delivery
