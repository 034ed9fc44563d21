import KlassGateway.Effects
import KlassGateway.Orchestrator.Fingerprint
/-!
# Submissions

Model of `SubmissionService` in `orchestrator/submission.rs`: `create_or_reuse`
with its retry after a unique violation, and `create_regeneration`.

The insert of `create_or_reuse` is the last statement of its transaction, so
the insert and the commit are one call.
-/

namespace KlassGateway.Orchestrator

open Lib Db

/-- `SubmissionError`, without the variant that nothing builds. -/
inductive SubmissionError where
  | database (e : SqlxError)
  | invalidUuid (message : String)

namespace SubmissionError

/-- `Display` of `SubmissionError`. -/
def toText : SubmissionError → String
  | database e => "database error: " ++ e.toText
  | invalidUuid m => "invalid UUID: " ++ m

end SubmissionError

/-- `ProviderMetadata`. -/
structure ProviderMetadata where
  llmProvider : Option String := none
  llmModel : Option String := none
  generatorProvider : Option String := none
  generatorModel : Option String := none

/-- `CreateInput`. -/
structure CreateInput where
  teacherId : Int
  rawPrompt : String
  preferredOutputType : Option String := none
  subjectId : Option Int := none
  subSubjectId : Option Int := none
  providerMetadata : ProviderMetadata := {}

/-- `CreateResult`. -/
structure CreateResult where
  id : Uuid
  wasCreated : Bool
  requestFingerprint : String

variable (P : Platform)

namespace CreateInput

/-- The output type of the request. -/
def outputType (input : CreateInput) : String :=
  normalizePreferredOutputType P input.preferredOutputType

/-- The fingerprint of the request. -/
def fingerprint (input : CreateInput) : String :=
  makeRequestFingerprint P input.teacherId input.rawPrompt (input.outputType P) input.subjectId
    input.subSubjectId

/-- The row that is inserted for the request. -/
def toRow (input : CreateInput) (id : Uuid) : MediaGeneration where
  id
  teacherId := input.teacherId
  subjectId := input.subjectId
  subSubjectId := input.subSubjectId
  rawPrompt := input.rawPrompt
  requestFingerprint := input.fingerprint P
  activeDuplicateKey := some (input.fingerprint P)
  preferredOutputType := input.outputType P
  llmProvider := input.providerMetadata.llmProvider
  llmModel := input.providerMetadata.llmModel
  generatorProvider := input.providerMetadata.generatorProvider
  generatorModel := input.providerMetadata.generatorModel

end CreateInput

/-- The lookup of an active duplicate. -/
def lookupDuplicate (input : CreateInput) : GatewayResult SubmissionError (Option Uuid) :=
  mapErr .database (query (.findActiveDuplicate input.teacherId (input.fingerprint P)))

/-- What follows a failed insert: a unique violation is looked up again. -/
def recoverInsert (input : CreateInput) (e : SqlxError) :
    GatewayResult SubmissionError CreateResult := do
  if e.code = some "23505" then
    match ← lookupDuplicate P input with
    | some id => return { id, wasCreated := false, requestFingerprint := input.fingerprint P }
    | none => throw (.database e)
  else throw (.database e)

/-- `create_or_reuse`. -/
def createOrReuse (input : CreateInput) : GatewayResult SubmissionError CreateResult := do
  match ← lookupDuplicate P input with
  | some id => return { id, wasCreated := false, requestFingerprint := input.fingerprint P }
  | none =>
    let id ← newV4
    match ← resultOf (query (.insertSubmission (input.toRow P id))) with
    | .ok () => return { id, wasCreated := true, requestFingerprint := input.fingerprint P }
    | .error e => recoverInsert P input e

/-- The prompt of a regeneration. -/
def combinedPrompt (parentPrompt additionalPrompt : String) : String :=
  "Original Request:\n" ++ parentPrompt ++ "\n\nRefinement / Additional context:\n" ++
    additionalPrompt

/-- The row that is inserted for a regeneration of `parent`. -/
def regenerationRow (parent : MediaGeneration) (additionalPrompt : String) (id : Uuid) :
    MediaGeneration :=
  let prompt := combinedPrompt parent.rawPrompt additionalPrompt
  let fingerprint := makeRequestFingerprint P parent.teacherId prompt parent.preferredOutputType
    parent.subjectId parent.subSubjectId
  { id
    teacherId := parent.teacherId
    generatedFromId := some parent.id
    isRegeneration := true
    subjectId := parent.subjectId
    subSubjectId := parent.subSubjectId
    rawPrompt := prompt
    requestFingerprint := fingerprint
    activeDuplicateKey := some fingerprint
    preferredOutputType := parent.preferredOutputType }

/-- `create_regeneration`. -/
def createRegeneration (parentId : Uuid) (additionalPrompt : String) :
    GatewayResult SubmissionError Uuid := do
  match ← mapErr .database (query (.findById parentId)) with
  | none => throw (.invalidUuid ("parent generation not found: " ++ parentId.toText))
  | some parent =>
    let id ← newV4
    let _ ← mapErr .database
      (query (.insertRegeneration parentId (regenerationRow P parent additionalPrompt id)))
    return id

end KlassGateway.Orchestrator
