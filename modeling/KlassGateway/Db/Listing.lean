import KlassGateway.Db.MediaGenerations
import KlassGateway.Lib.Table
import Mathlib.Data.List.Sort
/-!
# Listing generations

Model of the reads of `db/repositories/media_generations.rs` that list
generations: `find_recent_for_teacher`, `find_by_id_for_teacher` and
`find_chain`, with the eager-loaded relations.  They read more columns of the
related tables than the workflow writes, so the tables have their own types
here (`ListingDb`).

`ORDER BY created_at` leaves the order of rows of the same time open.  The
model keeps the order of the table.
-/

namespace KlassGateway.Db

open Lib

/-- `SubjectSummary`. -/
structure SubjectSummary where
  id : Int
  name : String
  slug : String

/-- `SubSubjectSummary`. -/
structure SubSubjectSummary where
  id : Int
  subjectId : Int
  name : String
  slug : String

/-- `TopicSummary`. -/
structure TopicSummary where
  id : Uuid
  title : String
  subSubjectId : Option Int
  thumbnailUrl : Option String
  isPublished : Bool

/-- `ContentSummary`. -/
structure ContentSummary where
  id : Uuid
  topicId : Uuid
  contentType : String
  title : Option String
  mediaUrl : Option String
  isPublished : Bool

/-- `RecommendedProjectSummary`. -/
structure RecommendedProjectSummary where
  id : Int
  title : String
  thumbnailUrl : Option String
  projectFileUrl : Option String
  sourceType : String
  isActive : Bool

/-- `SubSubjectWithSubject`. -/
structure SubSubjectWithSubject where
  subSubject : SubSubjectSummary
  subject : SubjectSummary

/-- `MediaGenerationWithRelations`. -/
structure MediaGenerationWithRelations where
  generation : MediaGeneration
  subject : Option SubjectSummary
  subSubject : Option SubSubjectWithSubject
  topic : Option TopicSummary
  content : Option ContentSummary
  recommendedProject : Option RecommendedProjectSummary

/-- `MediaGenerationChain`. -/
structure MediaGenerationChain where
  ancestors : List MediaGeneration
  children : List MediaGeneration

/-- The tables that the listing reads. -/
structure ListingDb where
  mediaGenerations : List MediaGeneration := []
  subjects : List SubjectSummary := []
  subSubjects : List SubSubjectSummary := []
  topics : List TopicSummary := []
  contents : List ContentSummary := []
  recommendedProjects : List RecommendedProjectSummary := []

namespace ListingDb

variable (db : ListingDb)

/-! ## Relations -/

/-- `SELECT ... WHERE id = ANY($1)`, and the map of the rows by id. -/
def fetchBy {K R : Type} [DecidableEq K] (key : R → K) (ids : List K) (rows : List R) (id : K) :
    Option R :=
  Table.find key id (rows.filter fun r => ids.contains (key r))

/-- `attach_relations`. -/
def attachRelations (generations : List MediaGeneration) : List MediaGenerationWithRelations :=
  let subjectIds := generations.filterMap MediaGeneration.subjectId
  let subSubjectIds := generations.filterMap MediaGeneration.subSubjectId
  let topicIds := generations.filterMap MediaGeneration.topicId
  let contentIds := generations.filterMap MediaGeneration.contentId
  let recommendedProjectIds := generations.filterMap MediaGeneration.recommendedProjectId
  let subject := fetchBy SubjectSummary.id subjectIds db.subjects
  let subSubject := fetchBy SubSubjectSummary.id subSubjectIds db.subSubjects
  let topic := fetchBy TopicSummary.id topicIds db.topics
  let content := fetchBy ContentSummary.id contentIds db.contents
  let recommendedProject :=
    fetchBy RecommendedProjectSummary.id recommendedProjectIds db.recommendedProjects
  generations.map fun g =>
    { generation := g
      subject := g.subjectId.bind subject
      -- The subject of a sub-subject is among the fetched ones only if some
      -- generation has it as its own subject.
      subSubject := (g.subSubjectId.bind subSubject).map fun ss =>
        { subSubject := ss
          subject := (subject ss.subjectId).getD { id := 0, name := "", slug := "" } }
      topic := g.topicId.bind topic
      content := g.contentId.bind content
      recommendedProject := g.recommendedProjectId.bind recommendedProject }

/-! ## Reads -/

/-- The rows of a teacher. -/
def ofTeacher (teacherId : Int) : List MediaGeneration :=
  db.mediaGenerations.filter fun g => g.teacherId == teacherId

/-- `find_recent_for_teacher`. -/
def findRecentForTeacher (teacherId : Int) (limit : Nat) : List MediaGenerationWithRelations :=
  db.attachRelations
    (((db.ofTeacher teacherId).insertionSort fun a b => b.createdAt ≤ a.createdAt).take limit)

/-- `find_by_id_for_teacher`. -/
def findByIdForTeacher (id : Uuid) (teacherId : Int) : Option MediaGenerationWithRelations :=
  (db.attachRelations (Table.find MediaGeneration.id id (db.ofTeacher teacherId)).toList).head?

/-- The loop of `find_chain`: the row under `id` and those above it, closest
first. -/
def walk : Nat → Uuid → List MediaGeneration
  | 0, _ => []
  | n + 1, id =>
    match Table.find MediaGeneration.id id db.mediaGenerations with
    | some g =>
      match g.generatedFromId with
      | some parent => g :: walk n parent
      | none => [g]
    | none => []

/-- `find_chain`. -/
def findChain (id : Uuid) : MediaGenerationChain where
  ancestors := (db.walk 50 id).reverse
  children := (db.mediaGenerations.filter fun g => g.generatedFromId == some id).insertionSort
    fun a b => a.createdAt ≤ b.createdAt

end ListingDb

end KlassGateway.Db
