import KlassGateway.Db.DynamicUpdates
/-!
# Partial updates by reading first

Model of `update` in `db/repositories/topics.rs`, `contents.rs`,
`marketplace_tasks.rs` and `student_progress.rs`.  Each reads the row, merges
the payload with it, and writes the columns back in a second statement; no
transaction holds the two together.

A nullable field of a payload has three states: `none` is not given,
`some none` is `NULL` and `some (some v)` is a value.
-/

namespace KlassGateway.Db.Admin

open Lib

/-! ## Topics -/

/-- `Topic`. -/
structure Topic where
  id : Uuid
  title : String
  teacherId : String
  subSubjectId : Option Int := none
  thumbnailUrl : Option String := none
  isPublished : Bool := true
  order : Int := 0
  ownerUserId : Option Int := none
  ownershipStatus : String := "legacy_unresolved"
  createdAt : Option DateTime := none
  updatedAt : Option DateTime := none

/-- `UpdateTopicPayload`. -/
structure UpdateTopicPayload where
  title : Option String := none
  subSubjectId : Option (Option Int) := none
  thumbnailUrl : Option (Option String) := none

/-- The second statement of `update`, on the row that is there; `current` is the
row that the first has read. -/
def writeTopic (payload : UpdateTopicPayload) (current : Topic) (now : DateTime) (row : Topic) :
    Topic :=
  { row with
    title := payload.title.getD current.title
    subSubjectId := payload.subSubjectId.getD current.subSubjectId
    thumbnailUrl := payload.thumbnailUrl.getD current.thumbnailUrl
    updatedAt := some now }

/-! ## Contents -/

/-- `Content`. -/
structure Content where
  id : Uuid
  topicId : Uuid
  contentType : String
  title : Option String := none
  data : Option Json := none
  mediaUrl : Option String := none
  isPublished : Bool := true
  order : Int := 0
  createdAt : Option DateTime := none
  updatedAt : Option DateTime := none

/-- `UpdateContentPayload`. -/
structure UpdateContentPayload where
  topicId : Option Uuid := none
  contentType : Option String := none
  title : Option (Option String) := none
  data : Option (Option Json) := none
  mediaUrl : Option (Option String) := none

/-- The second statement of `update`. -/
def writeContent (payload : UpdateContentPayload) (current : Content) (now : DateTime)
    (row : Content) : Content :=
  { row with
    topicId := payload.topicId.getD current.topicId
    contentType := payload.contentType.getD current.contentType
    title := payload.title.getD current.title
    data := payload.data.getD current.data
    mediaUrl := payload.mediaUrl.getD current.mediaUrl
    updatedAt := some now }

/-! ## Marketplace tasks -/

/-- `MarketplaceTask`. -/
structure MarketplaceTask where
  id : Uuid
  contentId : Uuid
  status : String := "open"
  taskType : String := "bid"
  description : Option String := none
  creatorId : Option String := none
  suggestedFreelancerId : Option Int := none
  attachmentUrl : Option String := none
  mediaGenerationId : Option Uuid := none
  createdAt : Option DateTime := none
  updatedAt : Option DateTime := none

/-- `UpdateMarketplaceTaskPayload`. -/
structure UpdateMarketplaceTaskPayload where
  contentId : Option Uuid := none
  taskType : Option String := none
  description : Option (Option String) := none
  creatorId : Option (Option String) := none
  suggestedFreelancerId : Option (Option Int) := none
  attachmentUrl : Option (Option String) := none
  mediaGenerationId : Option (Option Uuid) := none

/-- The second statement of `update`. -/
def writeTask (payload : UpdateMarketplaceTaskPayload) (current : MarketplaceTask) (now : DateTime)
    (row : MarketplaceTask) : MarketplaceTask :=
  { row with
    contentId := payload.contentId.getD current.contentId
    taskType := payload.taskType.getD current.taskType
    description := payload.description.getD current.description
    creatorId := payload.creatorId.getD current.creatorId
    suggestedFreelancerId := payload.suggestedFreelancerId.getD current.suggestedFreelancerId
    attachmentUrl := payload.attachmentUrl.getD current.attachmentUrl
    mediaGenerationId := payload.mediaGenerationId.getD current.mediaGenerationId
    updatedAt := some now }

/-! ## Student progress -/

/-- `StudentProgress`. -/
structure StudentProgress where
  id : Uuid
  studentName : String
  score : Option Int := none
  completionDate : Option DateTime := none
  createdAt : Option DateTime := none
  updatedAt : Option DateTime := none

/-- `UpdateStudentProgressPayload`. -/
structure UpdateStudentProgressPayload where
  studentName : Option String := none
  score : Option Int := none
  completionDate : Option (Option DateTime) := none

/-- The second statement of `update`.  A score that is not given and not there
is written as zero. -/
def writeProgress (payload : UpdateStudentProgressPayload) (current : StudentProgress)
    (now : DateTime) (row : StudentProgress) : StudentProgress :=
  { row with
    studentName := payload.studentName.getD current.studentName
    score := some (payload.score.getD (current.score.getD 0))
    completionDate := payload.completionDate.getD current.completionDate
    updatedAt := some now }

/-! ## One update alone -/

/-- `update`, when nothing happens between its statements: the row that was
written, and the table with it.  `refuses` is what the constraints of the table
have against a row. -/
def updateRow {R P : Type} (key : R → Uuid) (write : P → R → DateTime → R → R)
    (missing failed : String) (refuses : R → Option SqlxError) (id : Uuid) (payload : P)
    (now : DateTime) (rows : List R) : Except String (R × List R) :=
  match Table.find key id rows with
  | none => .error missing
  | some current =>
    match refuses (write payload current now current) with
    | some e => .error (failed ++ e.toText)
    | none =>
      .ok (write payload current now current, Table.modify key id (write payload current now) rows)

/-- `PgTopicsRepo::update`. -/
def updateTopic : (Topic → Option SqlxError) → Uuid → UpdateTopicPayload → DateTime → List Topic →
    Except String (Topic × List Topic) :=
  updateRow Topic.id writeTopic "topic not found" "failed to update topic: "

/-- `PgContentsRepo::update`. -/
def updateContent : (Content → Option SqlxError) → Uuid → UpdateContentPayload → DateTime →
    List Content → Except String (Content × List Content) :=
  updateRow Content.id writeContent "content not found" "failed to update content: "

/-- `PgMarketplaceTasksRepo::update`. -/
def updateTask : (MarketplaceTask → Option SqlxError) → Uuid → UpdateMarketplaceTaskPayload →
    DateTime → List MarketplaceTask → Except String (MarketplaceTask × List MarketplaceTask) :=
  updateRow MarketplaceTask.id writeTask "marketplace task not found"
    "failed to update marketplace task: "

/-- `PgStudentProgressRepo::update`. -/
def updateProgress : (StudentProgress → Option SqlxError) → Uuid → UpdateStudentProgressPayload →
    DateTime → List StudentProgress → Except String (StudentProgress × List StudentProgress) :=
  updateRow StudentProgress.id writeProgress "student progress not found"
    "failed to update student progress: "

section

variable {R P : Type} {key : R → Uuid} {write : P → R → DateTime → R → R}
  {missing failed : String} {refuses : R → Option SqlxError} {id : Uuid} {p : P} {now : DateTime}
  {rows : List R}

/-- What an update that succeeds has done. -/
theorem updateRow_ok {out : R × List R}
    (h : updateRow key write missing failed refuses id p now rows = .ok out) :
    ∃ row, Table.find key id rows = some row ∧ refuses (write p row now row) = none ∧
      out = (write p row now row, Table.modify key id (write p row now) rows) := by
  unfold updateRow at h
  cases hfind : Table.find key id rows with
  | none =>
    rw [hfind] at h
    cases h
  | some row =>
    simp only [hfind] at h
    cases hrefuses : refuses (write p row now row) with
    | some e =>
      rw [hrefuses] at h
      cases h
    | none =>
      rw [hrefuses] at h
      cases h
      exact ⟨row, rfl, hrefuses, rfl⟩

/-- An update that the constraints allow. -/
theorem updateRow_found {row : R} (h : Table.find key id rows = some row)
    (hrefuses : refuses (write p row now row) = none) :
    updateRow key write missing failed refuses id p now rows =
      .ok (write p row now row, Table.modify key id (write p row now) rows) := by
  simp only [updateRow, h, hrefuses]

end

end KlassGateway.Db.Admin
