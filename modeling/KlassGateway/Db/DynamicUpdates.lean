import KlassGateway.Db.MediaGenerations
import KlassGateway.Lib.SqlUpdate
import KlassGateway.Lib.Table
/-!
# Dynamic updates

Model of the two repositories that build an `UPDATE` from the fields that a
request sets: `update_payloads` of `db/repositories/media_generations.rs` and
`update` of `db/repositories/recommended_projects.rs`.

Each writes the columns and their placeholders in one function
(`build_payload_set`, `dynamic_update_set`) and binds the values in another.
The two sequences are written out below as the source has them.

* `updatePayloads_updates`, `updateProject_updates`: in both, every placeholder
  is bound to its column's value, and exactly the fields that are set are
  written.
* `run_updatePayloads`: on rows of `media_generations` the statement is the one
  that `RowUpdate.payloads` stands for.
-/

namespace KlassGateway.Db

open Lib Lib.Sql Orchestrator

/-- A value of a column.  `audit` is the document of
`orchestration_audit_payload`. -/
inductive SqlValue where
  | null
  | bool (b : Bool)
  | int (n : Int)
  | text (s : String)
  | json (v : Json)
  | audit (p : AuditPayload)
  | uuid (u : Uuid)
  | timestamp (t : DateTime)

namespace SqlValue

/-- A nullable column. -/
def nullable {α : Type} (f : α → SqlValue) : Option α → SqlValue
  | some a => f a
  | none => null

/-- The operator `=` on keys; `NULL` equals nothing. -/
def eq : SqlValue → SqlValue → Bool
  | int m, int n => decide (m = n)
  | uuid u, uuid v => decide (u = v)
  | _, _ => false

theorem nullable_injective {α : Type} {f : α → SqlValue} (hf : Function.Injective f)
    (hnull : ∀ a, f a ≠ .null) : Function.Injective (nullable f) := by
  intro o o' h
  cases o with
  | none =>
    cases o' with
    | none => rfl
    | some b => exact absurd h.symm (hnull b)
  | some a =>
    cases o' with
    | none => exact absurd h (hnull a)
    | some b => rw [hf h]

theorem text_injective : Function.Injective text := fun _ _ => text.inj

theorem nullable_text_injective : Function.Injective (nullable text) :=
  nullable_injective text_injective nofun

theorem nullable_int_injective : Function.Injective (nullable int) :=
  nullable_injective (fun _ _ => int.inj) nofun

theorem nullable_json_injective : Function.Injective (nullable json) :=
  nullable_injective (fun _ _ => json.inj) nofun

theorem uuid_injective : Function.Injective uuid := fun _ _ => uuid.inj

theorem nullable_uuid_injective : Function.Injective (nullable uuid) :=
  nullable_injective uuid_injective nofun

theorem nullable_timestamp_injective : Function.Injective (nullable timestamp) :=
  nullable_injective (fun _ _ => timestamp.inj) nofun

end SqlValue

/-- The columns of `media_generations`. -/
inductive MediaGenerationColumn where
  | id | generatedFromId | isRegeneration | teacherId | subjectId | subSubjectId | topicId
  | contentId | recommendedProjectId | rawPrompt | requestFingerprint | activeDuplicateKey
  | preferredOutputType | resolvedOutputType | status | llmProvider | llmModel | generatorProvider
  | generatorModel | interpretationPayload | interpretationAuditPayload | generationSpecPayload
  | decisionPayload | orchestrationAuditPayload | deliveryPayload | generatorServiceResponse
  | storagePath | fileUrl | thumbnailUrl | mimeType | errorCode | errorMessage | generationJobId
  | generationStatus | s3ObjectKey | presignedDownloadUrl | presignedUrlExpiresAt
  | generationErrorCode | generationErrorMessage | clarificationState | clarifiedAt
  | clarificationSkipped | createdAt | updatedAt
  deriving DecidableEq

/-- The columns of `recommended_projects`. -/
inductive RecommendedProjectColumn where
  | id | title | description | thumbnailUrl | projectFileUrl | ratio | projectType | tags | modules
  | sourceType | sourceReference | sourcePayload | displayPriority | isActive | startsAt | endsAt
  | createdBy | updatedBy | createdAt | updatedAt
  deriving DecidableEq

/-! ## `update_payloads` -/

/-- `build_payload_set`. -/
def buildPayloadSet (payload : UpdatePayloadsPayload) : List (Assignment MediaGenerationColumn) :=
  addCols [
    (.interpretationPayload, payload.interpretationPayload.isSome),
    (.interpretationAuditPayload, payload.interpretationAuditPayload.isSome),
    (.generationSpecPayload, payload.generationSpecPayload.isSome),
    (.decisionPayload, payload.decisionPayload.isSome),
    (.orchestrationAuditPayload, payload.orchestrationAuditPayload.isSome),
    (.deliveryPayload, payload.deliveryPayload.isSome),
    (.generatorServiceResponse, payload.generatorServiceResponse.isSome),
    (.resolvedOutputType, payload.resolvedOutputType.isSome),
    (.llmProvider, payload.llmProvider.isSome),
    (.llmModel, payload.llmModel.isSome),
    (.generatorProvider, payload.generatorProvider.isSome),
    (.generatorModel, payload.generatorModel.isSome),
    (.storagePath, payload.storagePath.isSome),
    (.fileUrl, payload.fileUrl.isSome),
    (.thumbnailUrl, payload.thumbnailUrl.isSome),
    (.mimeType, payload.mimeType.isSome),
    (.errorCode, payload.errorCode.isSome),
    (.errorMessage, payload.errorMessage.isSome)]

/-- The values that `update_payloads` binds. -/
def payloadBinds (payload : UpdatePayloadsPayload) : List SqlValue :=
  bindAll [
    payload.interpretationPayload.map .json,
    payload.interpretationAuditPayload.map .json,
    payload.generationSpecPayload.map .json,
    payload.decisionPayload.map .json,
    payload.orchestrationAuditPayload.map .audit,
    payload.deliveryPayload.map .json,
    payload.generatorServiceResponse.map .json,
    payload.resolvedOutputType.map .text,
    payload.llmProvider.map .text,
    payload.llmModel.map .text,
    payload.generatorProvider.map .text,
    payload.generatorModel.map .text,
    payload.storagePath.map .text,
    payload.fileUrl.map .text,
    payload.thumbnailUrl.map .text,
    payload.mimeType.map .text,
    payload.errorCode.map .text,
    payload.errorMessage.map .text]

/-- `update_payloads`: the statement and its values, or `none` where the row is
only read. -/
def updatePayloads (id : Uuid) (payload : UpdatePayloadsPayload) :
    Option (UpdateStatement MediaGenerationColumn × List SqlValue) :=
  let setParts := buildPayloadSet payload
  if setParts.isEmpty then none
  else
    some ({ set := setParts
            touched := .updatedAt
            key := .id
            keyPlaceholder := setParts.length + 1 },
      payloadBinds payload ++ [.uuid id])

/-- The value that a request has for a column. -/
def UpdatePayloadsPayload.value (payload : UpdatePayloadsPayload) :
    MediaGenerationColumn → Option SqlValue
  | .interpretationPayload => payload.interpretationPayload.map .json
  | .interpretationAuditPayload => payload.interpretationAuditPayload.map .json
  | .generationSpecPayload => payload.generationSpecPayload.map .json
  | .decisionPayload => payload.decisionPayload.map .json
  | .orchestrationAuditPayload => payload.orchestrationAuditPayload.map .audit
  | .deliveryPayload => payload.deliveryPayload.map .json
  | .generatorServiceResponse => payload.generatorServiceResponse.map .json
  | .resolvedOutputType => payload.resolvedOutputType.map .text
  | .llmProvider => payload.llmProvider.map .text
  | .llmModel => payload.llmModel.map .text
  | .generatorProvider => payload.generatorProvider.map .text
  | .generatorModel => payload.generatorModel.map .text
  | .storagePath => payload.storagePath.map .text
  | .fileUrl => payload.fileUrl.map .text
  | .thumbnailUrl => payload.thumbnailUrl.map .text
  | .mimeType => payload.mimeType.map .text
  | .errorCode => payload.errorCode.map .text
  | .errorMessage => payload.errorMessage.map .text
  | _ => none

/-! ## `update` of recommended projects -/

/-- `UpdateRecommendedProject`. -/
structure UpdateRecommendedProject where
  title : Option String := none
  description : Option String := none
  thumbnailUrl : Option String := none
  projectFileUrl : Option String := none
  ratio : Option String := none
  projectType : Option String := none
  tags : Option Json := none
  modules : Option Json := none
  sourceType : Option String := none
  sourceReference : Option String := none
  sourcePayload : Option Json := none
  displayPriority : Option Int := none
  isActive : Option Bool := none
  startsAt : Option DateTime := none
  endsAt : Option DateTime := none
  updatedBy : Option Int := none

/-- `dynamic_update_set`. -/
def dynamicUpdateSet (payload : UpdateRecommendedProject) :
    List (Assignment RecommendedProjectColumn) :=
  addCols [
    (.title, payload.title.isSome),
    (.description, payload.description.isSome),
    (.thumbnailUrl, payload.thumbnailUrl.isSome),
    (.projectFileUrl, payload.projectFileUrl.isSome),
    (.ratio, payload.ratio.isSome),
    (.projectType, payload.projectType.isSome),
    (.tags, payload.tags.isSome),
    (.modules, payload.modules.isSome),
    (.sourceType, payload.sourceType.isSome),
    (.sourceReference, payload.sourceReference.isSome),
    (.sourcePayload, payload.sourcePayload.isSome),
    (.displayPriority, payload.displayPriority.isSome),
    (.isActive, payload.isActive.isSome),
    (.startsAt, payload.startsAt.isSome),
    (.endsAt, payload.endsAt.isSome),
    (.updatedBy, payload.updatedBy.isSome)]

/-- The values that `update` binds. -/
def projectBinds (payload : UpdateRecommendedProject) : List SqlValue :=
  bindAll [
    payload.title.map .text,
    payload.description.map .text,
    payload.thumbnailUrl.map .text,
    payload.projectFileUrl.map .text,
    payload.ratio.map .text,
    payload.projectType.map .text,
    payload.tags.map .json,
    payload.modules.map .json,
    payload.sourceType.map .text,
    payload.sourceReference.map .text,
    payload.sourcePayload.map .json,
    payload.displayPriority.map .int,
    payload.isActive.map .bool,
    payload.startsAt.map .timestamp,
    payload.endsAt.map .timestamp,
    payload.updatedBy.map .int]

/-- `update`. -/
def updateProject (id : Int) (payload : UpdateRecommendedProject) :
    Option (UpdateStatement RecommendedProjectColumn × List SqlValue) :=
  let setParts := dynamicUpdateSet payload
  if setParts.isEmpty then none
  else
    some ({ set := setParts
            touched := .updatedAt
            key := .id
            keyPlaceholder := setParts.length + 1 },
      projectBinds payload ++ [.int id])

/-- The value that a request has for a column. -/
def UpdateRecommendedProject.value (payload : UpdateRecommendedProject) :
    RecommendedProjectColumn → Option SqlValue
  | .title => payload.title.map .text
  | .description => payload.description.map .text
  | .thumbnailUrl => payload.thumbnailUrl.map .text
  | .projectFileUrl => payload.projectFileUrl.map .text
  | .ratio => payload.ratio.map .text
  | .projectType => payload.projectType.map .text
  | .tags => payload.tags.map .json
  | .modules => payload.modules.map .json
  | .sourceType => payload.sourceType.map .text
  | .sourceReference => payload.sourceReference.map .text
  | .sourcePayload => payload.sourcePayload.map .json
  | .displayPriority => payload.displayPriority.map .int
  | .isActive => payload.isActive.map .bool
  | .startsAt => payload.startsAt.map .timestamp
  | .endsAt => payload.endsAt.map .timestamp
  | .updatedBy => payload.updatedBy.map .int
  | _ => none

/-! ## What the statements do -/

/-- The columns that a request may set, each with its value. -/
def fieldsOf {C : Type} (columns : List C) (value : C → Option SqlValue) :
    List (C × Option SqlValue) :=
  columns.map fun c => (c, value c)

/-- A statement that is built for a request sets its fields in the row with key
`id`, and there is none for a request without fields. -/
def Updates {C : Type} [DecidableEq C] (built : Option (UpdateStatement C × List SqlValue))
    (value : C → Option SqlValue) (key touched : C) (id : SqlValue) : Prop :=
  match built with
  | none => ∀ c, value c = none
  | some (stmt, binds) =>
    SetsFields stmt binds value id ∧ stmt.key = key ∧ stmt.touched = touched

theorem fieldValue_fieldsOf {C : Type} [DecidableEq C] {columns : List C}
    {value : C → Option SqlValue} (hvalue : ∀ c, c ∉ columns → value c = none) (c : C) :
    fieldValue (fieldsOf columns value) c = value c := by
  unfold fieldValue fieldsOf
  rw [List.find?_map]
  by_cases hc : c ∈ columns
  · obtain ⟨d, hd⟩ : ∃ d, columns.find? (fun d => d = c) = some d := by
      rw [← Option.isSome_iff_exists, List.find?_isSome]
      exact ⟨c, hc, by simp⟩
    have hdc : d = c := by simpa using List.find?_some hd
    subst hdc
    have hfind : columns.find? ((fun f : C × Option SqlValue => decide (f.1 = d)) ∘
        fun c => (c, value c)) = some d := hd
    rw [hfind]
    rfl
  · rw [hvalue c hc, Option.bind_eq_none_iff]
    intro f hf
    obtain ⟨d, hd, rfl⟩ := Option.map_eq_some_iff.1 hf
    have hdc : d = c := by simpa using List.find?_some hd
    exact hvalue d (hdc ▸ hc)

/-- The two passes over the same columns in the same order. -/
theorem updates_of_passes {C : Type} [DecidableEq C] (columns : List C)
    {value : C → Option SqlValue} {key touched : C} {id : SqlValue}
    (hnd : columns.Nodup) (htouched : touched ∉ columns)
    (hvalue : ∀ c, c ∉ columns → value c = none) {setParts : List (Assignment C)}
    {binds : List SqlValue} (hset : setParts = addCols (columns.map fun c => (c, (value c).isSome)))
    (hbinds : binds = bindAll (columns.map value)) :
    Updates (if setParts.isEmpty then none
      else some (⟨setParts, touched, key, setParts.length + 1⟩, binds ++ [id]))
      value key touched id := by
  have hfields : (fieldsOf columns value).map Prod.fst = columns := by
    simp [fieldsOf, Function.comp_def]
  have hsets : SetsFields ⟨setParts, touched, key, setParts.length + 1⟩ (binds ++ [id])
      (fieldValue (fieldsOf columns value)) id := by
    apply setsFields_of_fields
    · rwa [hfields]
    · rwa [hfields]
    · simpa [fieldsOf, Function.comp_def] using hset
    · rfl
    · simpa [fieldsOf, Function.comp_def] using hbinds
  rw [funext (fieldValue_fieldsOf hvalue)] at hsets
  by_cases hempty : setParts.isEmpty = true
  · rw [if_pos hempty]
    intro c
    rw [← Option.not_isSome_iff_eq_none, ← hsets.columns c]
    rintro ⟨a, ha, _⟩
    rw [List.isEmpty_iff.1 hempty] at ha
    cases ha
  · rw [if_neg hempty]
    exact ⟨hsets, rfl, rfl⟩

/-- The columns of `update_payloads`, in the order of the source. -/
def payloadColumns : List MediaGenerationColumn :=
  [.interpretationPayload, .interpretationAuditPayload, .generationSpecPayload,
    .decisionPayload, .orchestrationAuditPayload, .deliveryPayload, .generatorServiceResponse,
    .resolvedOutputType, .llmProvider, .llmModel, .generatorProvider, .generatorModel,
    .storagePath, .fileUrl, .thumbnailUrl, .mimeType, .errorCode, .errorMessage]

/-- The columns of `update`, in the order of the source. -/
def projectColumns : List RecommendedProjectColumn :=
  [.title, .description, .thumbnailUrl, .projectFileUrl, .ratio, .projectType, .tags, .modules,
    .sourceType, .sourceReference, .sourcePayload, .displayPriority, .isActive, .startsAt,
    .endsAt, .updatedBy]

theorem updatePayloads_updates (id : Uuid) (payload : UpdatePayloadsPayload) :
    Updates (updatePayloads id payload) payload.value .id .updatedAt (.uuid id) := by
  apply updates_of_passes payloadColumns
  · decide
  · decide
  · intro c hc
    cases c <;> first | rfl | exact absurd (by decide) hc
  · simp [buildPayloadSet, payloadColumns, UpdatePayloadsPayload.value]
  · rfl

theorem updateProject_updates (id : Int) (payload : UpdateRecommendedProject) :
    Updates (updateProject id payload) payload.value .id .updatedAt (.int id) := by
  apply updates_of_passes projectColumns
  · decide
  · decide
  · intro c hc
    cases c <;> first | rfl | exact absurd (by decide) hc
  · simp [dynamicUpdateSet, projectColumns, UpdateRecommendedProject.value]
  · rfl

/-- Both builders, for every set of fields and every value. -/
theorem dynamicUpdates_setFields :
    (∀ id payload, Updates (updatePayloads id payload) payload.value .id .updatedAt (.uuid id)) ∧
      ∀ id payload, Updates (updateProject id payload) payload.value .id .updatedAt (.int id) :=
  ⟨updatePayloads_updates, updateProject_updates⟩

/-! ## Rows of `media_generations` -/

/-- The value of `generation_status`. -/
def GenerationStatus.asStr : GenerationStatus → String
  | pending => "pending"
  | processing => "processing"
  | completed => "completed"
  | failed => "failed"

/-- A row by its columns. -/
def MediaGeneration.cells (g : MediaGeneration) : MediaGenerationColumn → SqlValue
  | .id => .uuid g.id
  | .generatedFromId => .nullable .uuid g.generatedFromId
  | .isRegeneration => .bool g.isRegeneration
  | .teacherId => .int g.teacherId
  | .subjectId => .nullable .int g.subjectId
  | .subSubjectId => .nullable .int g.subSubjectId
  | .topicId => .nullable .uuid g.topicId
  | .contentId => .nullable .uuid g.contentId
  | .recommendedProjectId => .nullable .int g.recommendedProjectId
  | .rawPrompt => .text g.rawPrompt
  | .requestFingerprint => .text g.requestFingerprint
  | .activeDuplicateKey => .nullable .text g.activeDuplicateKey
  | .preferredOutputType => .text g.preferredOutputType
  | .resolvedOutputType => .nullable .text g.resolvedOutputType
  | .status => .text g.status.asStr
  | .llmProvider => .nullable .text g.llmProvider
  | .llmModel => .nullable .text g.llmModel
  | .generatorProvider => .nullable .text g.generatorProvider
  | .generatorModel => .nullable .text g.generatorModel
  | .interpretationPayload => .nullable .json g.interpretationPayload
  | .interpretationAuditPayload => .nullable .json g.interpretationAuditPayload
  | .generationSpecPayload => .nullable .json g.generationSpecPayload
  | .decisionPayload => .nullable .json g.decisionPayload
  | .orchestrationAuditPayload => .nullable .audit g.orchestrationAuditPayload
  | .deliveryPayload => .nullable .json g.deliveryPayload
  | .generatorServiceResponse => .nullable .json g.generatorServiceResponse
  | .storagePath => .nullable .text g.storagePath
  | .fileUrl => .nullable .text g.fileUrl
  | .thumbnailUrl => .nullable .text g.thumbnailUrl
  | .mimeType => .nullable .text g.mimeType
  | .errorCode => .nullable .text g.errorCode
  | .errorMessage => .nullable .text g.errorMessage
  | .generationJobId => .nullable .uuid g.generationJobId
  | .generationStatus => .nullable (fun s => .text s.asStr) g.generationStatus
  | .s3ObjectKey => .nullable .text g.s3ObjectKey
  | .presignedDownloadUrl => .nullable .text g.presignedDownloadUrl
  | .presignedUrlExpiresAt => .nullable .timestamp g.presignedUrlExpiresAt
  | .generationErrorCode => .nullable .text g.generationErrorCode
  | .generationErrorMessage => .nullable .text g.generationErrorMessage
  | .clarificationState => .nullable .json g.clarificationState
  | .clarifiedAt => .nullable .timestamp g.clarifiedAt
  | .clarificationSkipped => .bool g.clarificationSkipped
  | .createdAt => .timestamp g.createdAt
  | .updatedAt => .timestamp g.updatedAt

theorem getD_nullable {α : Type} (f : α → SqlValue) (new old : Option α) :
    (new.map f).getD (SqlValue.nullable f old) = SqlValue.nullable f (new.or old) := by
  cases new <;> rfl

/-- A field that is set takes the place of the column, any other stays. -/
theorem cells_applyPayloads (payload : UpdatePayloadsPayload) (now : DateTime)
    (g : MediaGeneration) (c : MediaGenerationColumn) :
    (if c = .updatedAt then .timestamp now else (payload.value c).getD (g.cells c)) =
      ((RowUpdate.payloads payload).apply now g).cells c := by
  cases c <;> first | rfl | exact getD_nullable _ _ _

/-- On typed rows a statement that is built for a request is the update `apply`,
if `apply` gives each column the value of the request. -/
theorem run_of_updates {C R K : Type} [DecidableEq C] [DecidableEq K]
    {stmt : UpdateStatement C} {binds : List SqlValue} {value : C → Option SqlValue}
    {key touched : C} {id : K} {sqlId : SqlValue} {now : SqlValue} {rowKey : R → K}
    {cells : R → C → SqlValue} {apply : R → R}
    (h : Updates (some (stmt, binds)) value key touched sqlId)
    (hkey : ∀ r, SqlValue.eq (cells r key) sqlId = decide (rowKey r = id))
    (happly : ∀ r c, (if c = touched then now else (value c).getD (cells r c)) =
      cells (apply r) c) (table : List R) :
    stmt.run binds SqlValue.eq now (table.map cells) =
      some ((Table.modify rowKey id apply table).map cells) := by
  obtain ⟨hsets, rfl, rfl⟩ := h
  rw [hsets.run, List.map_map, Table.modify, List.map_map]
  congr 1
  apply List.map_congr_left
  intro r _
  simp only [Function.comp_apply, hkey, decide_eq_true_eq]
  split
  · exact funext (happly r)
  · rfl

/-- The statement is the update that `RowUpdate.payloads` stands for. -/
theorem run_updatePayloads {id : Uuid} {payload : UpdatePayloadsPayload}
    {stmt : UpdateStatement MediaGenerationColumn} {binds : List SqlValue}
    (h : updatePayloads id payload = some (stmt, binds)) (now : DateTime)
    (table : List MediaGeneration) :
    stmt.run binds SqlValue.eq (.timestamp now) (table.map MediaGeneration.cells) =
      some ((Table.modify MediaGeneration.id id ((RowUpdate.payloads payload).apply now)
        table).map MediaGeneration.cells) := by
  have hupdates := updatePayloads_updates id payload
  rw [h] at hupdates
  exact run_of_updates hupdates (fun _ => rfl) (cells_applyPayloads payload now) table

end KlassGateway.Db
