import KlassGateway.Api.AdminUpdates
import KlassGateway.Db.RecommendedProjects
/-!
# Updates of recommended projects

Model of `update` in `api/rest/admin/recommended_projects.rs`: the fields of the
request are merged with the project, and the repository sets what is there
after the merge.
-/

namespace KlassGateway.Api.Admin

open Lib Db Db.Admin

/-- `UpdateRecommendedProjectRequest`. -/
structure UpdateRecommendedProjectRequest where
  title : Option String := none
  description : Option String := none
  thumbnailUrl : Option String := none
  projectFileUrl : Option String := none
  ratio : Option String := none
  projectType : Option String := none
  tags : Option Json := none
  modules : Option Json := none
  sourceReference : Option String := none
  sourcePayload : Option Json := none
  displayPriority : Option Int := none
  isActive : Option Bool := none
  startsAt : Option String := none
  endsAt : Option String := none

/-- `parse_dt`, which is used for both bounds. -/
def parseDt (P : Parsers) (existing : RecommendedProject) :
    Option String → Except PatchError (Option DateTime)
  | some val =>
    if val.isEmpty then pure none
    else
      match P.rfc3339 val with
      | some t => pure (some t)
      | none =>
        throw (.app (.validation
          ("Format tanggal tidak valid: " ++ val ++ ". Gunakan format RFC 3339.")))
  | none => pure existing.startsAt

/-- What the handler hands to the repository. -/
def mergeProject (payload : UpdateRecommendedProjectRequest) (existing : RecommendedProject)
    (startsAt endsAt : Option DateTime) (userId : Int) : UpdateRecommendedProject where
  title := payload.title.or (some existing.title)
  description := payload.description.or existing.description
  thumbnailUrl := payload.thumbnailUrl.or existing.thumbnailUrl
  projectFileUrl := payload.projectFileUrl.or existing.projectFileUrl
  ratio := payload.ratio.or (some existing.ratio)
  projectType := payload.projectType.or existing.projectType
  tags := payload.tags.or existing.tags
  modules := payload.modules.or existing.modules
  sourceType := none
  sourceReference := payload.sourceReference.or existing.sourceReference
  sourcePayload := payload.sourcePayload.or existing.sourcePayload
  displayPriority := payload.displayPriority.or (some existing.displayPriority)
  isActive := payload.isActive.or (some existing.isActive)
  startsAt
  endsAt
  updatedBy := some userId

/-- `update`. -/
def updateRecommendedProject (P : Parsers) (principal : Principal) (id : Int)
    (payload : UpdateRecommendedProjectRequest) (now : DateTime)
    (refuses : RecommendedProject → Option SqlxError) (rows : List RecommendedProject) :
    Except PatchError (RecommendedProject × List RecommendedProject) := do
  requireAdmin principal
  let missing : PatchError := .app (.notFound "Recommended project tidak ditemukan.")
  let existing ← okOr missing (findProject id rows)
  let startsAt ← parseDt P existing payload.startsAt
  let endsAt ← parseDt P existing payload.endsAt
  let update := mergeProject payload existing startsAt endsAt principal.userId
  let out ← (updateProjectRow refuses id update now rows).mapError fun e =>
    .app (.internal ("gagal memperbarui recommended project: " ++ e))
  let project ← okOr missing out.1
  return (project, out.2)

end KlassGateway.Api.Admin
