import KlassGateway.Api.Handlers
import KlassGateway.Db.Listing
/-!
# The listing endpoint

Model of `index` and `show` in `api/rest/media_generations.rs` on one state of
the tables, with the resources that they build.  Statements that fail are left
out: they end the request with an error and no data.
-/

namespace KlassGateway.Api

open Lib Db

/-- `SubjectResource`. -/
structure SubjectResource where
  id : Int
  name : String
  slug : String

/-- `SubSubjectResource`. -/
structure SubSubjectResource where
  id : Int
  subjectId : Int
  name : String
  slug : String
  subject : Option SubjectResource

/-- `TopicResource`. -/
structure TopicResource where
  id : Uuid
  title : String
  subSubjectId : Option Int
  thumbnailUrl : Option String
  isPublished : Bool

/-- `ContentResource`. -/
structure ContentResource where
  id : Uuid
  topicId : Uuid
  contentType : String
  title : Option String
  mediaUrl : Option String
  isPublished : Bool

/-- `RecommendedProjectResource`. -/
structure RecommendedProjectResource where
  id : Int
  title : String
  thumbnailUrl : Option String
  projectFileUrl : Option String
  sourceType : String
  isActive : Bool

/-- `MediaGenerationResource`. -/
structure MediaGenerationResource where
  id : Uuid
  status : String
  rawPrompt : String
  preferredOutputType : String
  resolvedOutputType : Option String
  subjectId : Option Int
  subSubjectId : Option Int
  topicId : Option Uuid
  contentId : Option Uuid
  recommendedProjectId : Option Int
  generatedFromId : Option Uuid
  isRegeneration : Bool
  createdAt : Option String
  updatedAt : Option String
  deliveryPayload : Option Json
  presignedDownloadUrl : Option String
  errorCode : Option String
  errorMessage : Option String
  subject : Option SubjectResource := none
  subSubject : Option SubSubjectResource := none
  topic : Option TopicResource := none
  content : Option ContentResource := none
  recommendedProject : Option RecommendedProjectResource := none

/-- The data of the response: `MediaGenerationListResponse` or
`MediaGenerationChainResource`. -/
inductive IndexData where
  | list (generations : List MediaGenerationResource)
  | chain (ancestors children : List MediaGenerationResource)

namespace IndexData

/-- All generations of a response. -/
def generations : IndexData → List MediaGenerationResource
  | list generations => generations
  | chain ancestors children => ancestors ++ children

end IndexData

/-- `format_naive_datetime` comes from `chrono`. -/
structure ListingState where
  formatNaiveDatetime : DateTime → String
  db : ListingDb

variable (L : ListingState)

/-- `build_resource_from_gen`. -/
def buildResourceFromGen (gen : MediaGeneration) : MediaGenerationResource where
  id := gen.id
  status := gen.status.asStr
  rawPrompt := gen.rawPrompt
  preferredOutputType := gen.preferredOutputType
  resolvedOutputType := gen.resolvedOutputType
  subjectId := gen.subjectId
  subSubjectId := gen.subSubjectId
  topicId := gen.topicId
  contentId := gen.contentId
  recommendedProjectId := gen.recommendedProjectId
  generatedFromId := gen.generatedFromId
  isRegeneration := gen.isRegeneration
  createdAt := some (L.formatNaiveDatetime gen.createdAt)
  updatedAt := some (L.formatNaiveDatetime gen.updatedAt)
  deliveryPayload := gen.deliveryPayload
  presignedDownloadUrl := gen.presignedDownloadUrl
  errorCode := gen.errorCode
  errorMessage := gen.errorMessage

/-- The resource of a subject. -/
def subjectResource (s : SubjectSummary) : SubjectResource := ⟨s.id, s.name, s.slug⟩

/-- `build_resource`. -/
def buildResource (generation : MediaGenerationWithRelations) : MediaGenerationResource :=
  { buildResourceFromGen L generation.generation with
    subject := generation.subject.map subjectResource
    subSubject := generation.subSubject.map fun ss =>
      { id := ss.subSubject.id
        subjectId := ss.subSubject.subjectId
        name := ss.subSubject.name
        slug := ss.subSubject.slug
        subject := some (subjectResource ss.subject) }
    topic := generation.topic.map fun t =>
      { id := t.id
        title := t.title
        subSubjectId := t.subSubjectId
        thumbnailUrl := t.thumbnailUrl
        isPublished := t.isPublished }
    content := generation.content.map fun c =>
      { id := c.id
        topicId := c.topicId
        contentType := c.contentType
        title := c.title
        mediaUrl := c.mediaUrl
        isPublished := c.isPublished }
    recommendedProject := generation.recommendedProject.map fun r =>
      { id := r.id
        title := r.title
        thumbnailUrl := r.thumbnailUrl
        projectFileUrl := r.projectFileUrl
        sourceType := r.sourceType
        isActive := r.isActive } }

/-- `require_teacher` with the rest of a handler. -/
def asTeacher {α : Type} (principal : Principal) (rest : Except AppError α) : Except AppError α :=
  if principal.role ≠ "teacher" then
    throw (.forbidden ("requires role 'teacher', user has '" ++ principal.role ++ "'"))
  else rest

/-- `index`, with `MediaGenerationQueryParams`. -/
def index (principal : Principal) (parentId : Option Uuid) : Except AppError IndexData :=
  asTeacher principal
    (match parentId with
    | some parentId =>
      let chain := L.db.findChain parentId
      return .chain (chain.ancestors.map (buildResourceFromGen L))
        (chain.children.map (buildResourceFromGen L))
    | none => return .list ((L.db.findRecentForTeacher principal.userId 20).map (buildResource L)))

/-- `show`, whose lookup takes the rows of the teacher only. -/
def showGeneration (principal : Principal) (id : Uuid) : Except AppError MediaGenerationResource :=
  asTeacher principal
    (match L.db.findByIdForTeacher id principal.userId with
    | some generation => return buildResource L generation
    | none => throw (.notFound "media generation not found"))

end KlassGateway.Api
