import KlassGateway.Db.DynamicUpdates
import KlassGateway.Lib.Sorting
/-!
# Recommended projects

Model of `find_by_id`, `find_visible_at` and `update` in
`db/repositories/recommended_projects.rs`.

* `mem_findVisibleAt`: the visible projects.
* `run_updateProject`: on rows of the table the statement of `update` is
  `writeProject`.
-/

namespace KlassGateway.Db.Admin

open Lib Lib.Sql

/-- `RecommendedProject`. -/
structure RecommendedProject where
  id : Int
  title : String
  description : Option String := none
  thumbnailUrl : Option String := none
  projectFileUrl : Option String := none
  ratio : String := "16:9"
  projectType : Option String := none
  tags : Option Json := none
  modules : Option Json := none
  sourceType : String
  sourceReference : Option String := none
  sourcePayload : Option Json := none
  displayPriority : Int := 0
  isActive : Bool := true
  startsAt : Option DateTime := none
  endsAt : Option DateTime := none
  createdBy : Option Int := none
  updatedBy : Option Int := none
  createdAt : DateTime
  updatedAt : DateTime

namespace RecommendedProject

/-- A row by its columns. -/
def cells (p : RecommendedProject) : RecommendedProjectColumn → SqlValue
  | .id => .int p.id
  | .title => .text p.title
  | .description => .nullable .text p.description
  | .thumbnailUrl => .nullable .text p.thumbnailUrl
  | .projectFileUrl => .nullable .text p.projectFileUrl
  | .ratio => .text p.ratio
  | .projectType => .nullable .text p.projectType
  | .tags => .nullable .json p.tags
  | .modules => .nullable .json p.modules
  | .sourceType => .text p.sourceType
  | .sourceReference => .nullable .text p.sourceReference
  | .sourcePayload => .nullable .json p.sourcePayload
  | .displayPriority => .int p.displayPriority
  | .isActive => .bool p.isActive
  | .startsAt => .nullable .timestamp p.startsAt
  | .endsAt => .nullable .timestamp p.endsAt
  | .createdBy => .nullable .int p.createdBy
  | .updatedBy => .nullable .int p.updatedBy
  | .createdAt => .timestamp p.createdAt
  | .updatedAt => .timestamp p.updatedAt

/-- The condition of `find_visible_at`. -/
def visibleAt (moment : DateTime) (p : RecommendedProject) : Bool :=
  p.isActive && p.startsAt.all (fun t => t ≤ moment) && p.endsAt.all fun t => moment ≤ t

/-- `ORDER BY display_priority DESC, created_at DESC`. -/
def compareListed (a b : RecommendedProject) : Ordering :=
  (compare b.displayPriority a.displayPriority).then (compare b.createdAt a.createdAt)

end RecommendedProject

/-- `find_visible_at`. -/
def findVisibleAt (moment : DateTime) (rows : List RecommendedProject) : List RecommendedProject :=
  sortBy RecommendedProject.compareListed (rows.filter (RecommendedProject.visibleAt moment))

/-- `find_by_id`. -/
def findProject (id : Int) (rows : List RecommendedProject) : Option RecommendedProject :=
  Table.find RecommendedProject.id id rows

/-- A row after `update`. -/
def writeProject (payload : UpdateRecommendedProject) (now : DateTime) (p : RecommendedProject) :
    RecommendedProject :=
  { p with
    title := payload.title.getD p.title
    description := payload.description.or p.description
    thumbnailUrl := payload.thumbnailUrl.or p.thumbnailUrl
    projectFileUrl := payload.projectFileUrl.or p.projectFileUrl
    ratio := payload.ratio.getD p.ratio
    projectType := payload.projectType.or p.projectType
    tags := payload.tags.or p.tags
    modules := payload.modules.or p.modules
    sourceType := payload.sourceType.getD p.sourceType
    sourceReference := payload.sourceReference.or p.sourceReference
    sourcePayload := payload.sourcePayload.or p.sourcePayload
    displayPriority := payload.displayPriority.getD p.displayPriority
    isActive := payload.isActive.getD p.isActive
    startsAt := payload.startsAt.or p.startsAt
    endsAt := payload.endsAt.or p.endsAt
    updatedBy := payload.updatedBy.or p.updatedBy
    updatedAt := now }

/-- `PgRecommendedProjectsRepo::update`: the row that it returns and the table.
`refuses` is what the constraints of the table have against a row. -/
def updateProjectRow (refuses : RecommendedProject → Option SqlxError) (id : Int)
    (payload : UpdateRecommendedProject) (now : DateTime) (rows : List RecommendedProject) :
    Except String (Option RecommendedProject × List RecommendedProject) :=
  if (dynamicUpdateSet payload).isEmpty then .ok (findProject id rows, rows)
  else
    match findProject id rows with
    | none => .ok (none, rows)
    | some current =>
      match refuses (writeProject payload now current) with
      | some e =>
        .error ("failed to update recommended project " ++ toString id ++ ": " ++ e.toText)
      | none =>
        .ok (some (writeProject payload now current),
          Table.modify RecommendedProject.id id (writeProject payload now) rows)

theorem mem_findVisibleAt {moment : DateTime} {rows : List RecommendedProject}
    {p : RecommendedProject} :
    p ∈ findVisibleAt moment rows ↔ p ∈ rows ∧ p.visibleAt moment = true := by
  rw [findVisibleAt, mem_sortBy, List.mem_filter]

/-- A field that is set takes the place of the column, any other stays. -/
theorem cells_writeProject (payload : UpdateRecommendedProject) (now : DateTime)
    (p : RecommendedProject) (c : RecommendedProjectColumn) :
    (if c = .updatedAt then .timestamp now else (payload.value c).getD (p.cells c)) =
      (writeProject payload now p).cells c := by
  cases c <;> first | rfl | exact getD_nullable _ _ _ | exact Option.getD_map _ _ _

/-- The statement of `update` is `writeProject`. -/
theorem run_updateProject {id : Int} {payload : UpdateRecommendedProject}
    {stmt : UpdateStatement RecommendedProjectColumn} {binds : List SqlValue}
    (h : updateProject id payload = some (stmt, binds)) (now : DateTime)
    (rows : List RecommendedProject) :
    stmt.run binds SqlValue.eq (.timestamp now) (rows.map RecommendedProject.cells) =
      some ((Table.modify RecommendedProject.id id (writeProject payload now) rows).map
        RecommendedProject.cells) := by
  have hupdates := updateProject_updates id payload
  rw [h] at hupdates
  exact run_of_updates hupdates (fun _ => rfl) (cells_writeProject payload now) rows

end KlassGateway.Db.Admin
