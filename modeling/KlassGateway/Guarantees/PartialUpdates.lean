import KlassGateway.Db.PartialUpdates
import KlassGateway.Lib.ReadMergeWrite
/-!
# Partial updates of one row among each other

Each of the four repositories writes back what it has read.  A column that
another update has changed in between is reset, and a score that is `NULL`
becomes zero.

* `topicUpdates` and its siblings: the four repositories as updates that read,
  merge and write.
* `updates_serial`: where no stale value and no made-up score is written, the
  updates of a row do what they do one after the other.
-/

namespace KlassGateway.Db.Admin

open Lib Lib.ReadMergeWrite SqlValue

/-! ## The four repositories -/

/-- The columns that `PgTopicsRepo::update` writes. -/
inductive TopicColumn where
  | title | subSubjectId | thumbnailUrl
  deriving DecidableEq

/-- Updates of a topic. -/
def topicUpdates : Updating Topic UpdateTopicPayload DateTime TopicColumn SqlValue Topic where
  col t
    | .title => .text t.title
    | .subSubjectId => .nullable .int t.subSubjectId
    | .thumbnailUrl => .nullable .text t.thumbnailUrl
  rest t := { t with title := "", subSubjectId := none, thumbnailUrl := none, updatedAt := none }
  sets payload
    | .title => payload.title.map .text
    | .subSubjectId => payload.subSubjectId.map (.nullable .int)
    | .thumbnailUrl => payload.thumbnailUrl.map (.nullable .text)
  write := writeTopic
  Complete _ _ := True
  write_rest _ _ _ _ := rfl
  write_set {p read now row c v} h := by
    cases c <;> exact map_getD_of_some h
  write_unset {p now row c} _ h := by
    cases c <;> exact map_getD_of_none h
  write_congr {p read now row} h := by
    have h1 := getD_congr text_injective (h .title)
    have h2 := getD_congr nullable_int_injective (h .subSubjectId)
    have h3 := getD_congr nullable_text_injective (h .thumbnailUrl)
    simp only [writeTopic, h1, h2, h3]

/-- The columns that `PgContentsRepo::update` writes. -/
inductive ContentColumn where
  | topicId | contentType | title | data | mediaUrl
  deriving DecidableEq

/-- Updates of a content. -/
def contentUpdates :
    Updating Content UpdateContentPayload DateTime ContentColumn SqlValue Content where
  col c
    | .topicId => .uuid c.topicId
    | .contentType => .text c.contentType
    | .title => .nullable .text c.title
    | .data => .nullable .json c.data
    | .mediaUrl => .nullable .text c.mediaUrl
  rest c := { c with
    topicId := ⟨0⟩, contentType := "", title := none, data := none, mediaUrl := none
    updatedAt := none }
  sets payload
    | .topicId => payload.topicId.map .uuid
    | .contentType => payload.contentType.map .text
    | .title => payload.title.map (.nullable .text)
    | .data => payload.data.map (.nullable .json)
    | .mediaUrl => payload.mediaUrl.map (.nullable .text)
  write := writeContent
  Complete _ _ := True
  write_rest _ _ _ _ := rfl
  write_set {p read now row c v} h := by
    cases c <;> exact map_getD_of_some h
  write_unset {p now row c} _ h := by
    cases c <;> exact map_getD_of_none h
  write_congr {p read now row} h := by
    have h1 := getD_congr uuid_injective (h .topicId)
    have h2 := getD_congr text_injective (h .contentType)
    have h3 := getD_congr nullable_text_injective (h .title)
    have h4 := getD_congr nullable_json_injective (h .data)
    have h5 := getD_congr nullable_text_injective (h .mediaUrl)
    simp only [writeContent, h1, h2, h3, h4, h5]

/-- The columns that `PgMarketplaceTasksRepo::update` writes. -/
inductive TaskColumn where
  | contentId | taskType | description | creatorId | suggestedFreelancerId | attachmentUrl
  | mediaGenerationId
  deriving DecidableEq

/-- Updates of a marketplace task. -/
def taskUpdates : Updating MarketplaceTask UpdateMarketplaceTaskPayload DateTime TaskColumn
    SqlValue MarketplaceTask where
  col t
    | .contentId => .uuid t.contentId
    | .taskType => .text t.taskType
    | .description => .nullable .text t.description
    | .creatorId => .nullable .text t.creatorId
    | .suggestedFreelancerId => .nullable .int t.suggestedFreelancerId
    | .attachmentUrl => .nullable .text t.attachmentUrl
    | .mediaGenerationId => .nullable .uuid t.mediaGenerationId
  rest t := { t with
    contentId := ⟨0⟩, taskType := "", description := none, creatorId := none
    suggestedFreelancerId := none, attachmentUrl := none, mediaGenerationId := none
    updatedAt := none }
  sets payload
    | .contentId => payload.contentId.map .uuid
    | .taskType => payload.taskType.map .text
    | .description => payload.description.map (.nullable .text)
    | .creatorId => payload.creatorId.map (.nullable .text)
    | .suggestedFreelancerId => payload.suggestedFreelancerId.map (.nullable .int)
    | .attachmentUrl => payload.attachmentUrl.map (.nullable .text)
    | .mediaGenerationId => payload.mediaGenerationId.map (.nullable .uuid)
  write := writeTask
  Complete _ _ := True
  write_rest _ _ _ _ := rfl
  write_set {p read now row c v} h := by
    cases c <;> exact map_getD_of_some h
  write_unset {p now row c} _ h := by
    cases c <;> exact map_getD_of_none h
  write_congr {p read now row} h := by
    have h1 := getD_congr uuid_injective (h .contentId)
    have h2 := getD_congr text_injective (h .taskType)
    have h3 := getD_congr nullable_text_injective (h .description)
    have h4 := getD_congr nullable_text_injective (h .creatorId)
    have h5 := getD_congr nullable_int_injective (h .suggestedFreelancerId)
    have h6 := getD_congr nullable_text_injective (h .attachmentUrl)
    have h7 := getD_congr nullable_uuid_injective (h .mediaGenerationId)
    simp only [writeTask, h1, h2, h3, h4, h5, h6, h7]

/-- The columns that `PgStudentProgressRepo::update` writes. -/
inductive ProgressColumn where
  | studentName | score | completionDate
  deriving DecidableEq

/-- Updates of a student progress record.  There is a score to write if the
payload sets it or the row has one. -/
def progressUpdates : Updating StudentProgress UpdateStudentProgressPayload DateTime
    ProgressColumn SqlValue StudentProgress where
  col r
    | .studentName => .text r.studentName
    | .score => .nullable .int r.score
    | .completionDate => .nullable .timestamp r.completionDate
  rest r := { r with studentName := "", score := none, completionDate := none, updatedAt := none }
  sets payload
    | .studentName => payload.studentName.map .text
    | .score => payload.score.map .int
    | .completionDate => payload.completionDate.map (.nullable .timestamp)
  write := writeProgress
  Complete payload row := payload.score.isSome ∨ row.score.isSome
  write_rest _ _ _ _ := rfl
  write_set {p read now row c v} h := by
    cases c with
    | studentName => exact map_getD_of_some h
    | score => exact map_getD_of_some h
    | completionDate => exact map_getD_of_some h
  write_unset {p now row c} hcomplete h := by
    cases c with
    | studentName => exact map_getD_of_none h
    | completionDate => exact map_getD_of_none h
    | score =>
      have hnone : p.score = none := Option.map_eq_none_iff.1 h
      rw [hnone] at hcomplete
      obtain ⟨n, hn⟩ := Option.isSome_iff_exists.1 (hcomplete.resolve_left nofun)
      show nullable int (some (p.score.getD (row.score.getD 0))) = nullable int row.score
      rw [hnone, hn]
      rfl
  write_congr {p read now row} h := by
    have h1 := getD_congr text_injective (h .studentName)
    have h2 : p.score.getD (read.score.getD 0) = p.score.getD (row.score.getD 0) := by
      cases hscore : p.score with
      | none => rw [nullable_int_injective (h .score (Option.map_eq_none_iff.2 hscore))]
      | some n => rfl
    have h3 := getD_congr nullable_timestamp_injective (h .completionDate)
    simp only [writeProgress, h1, h2, h3]

/-! ## One after the other -/

section

variable {R P C V F : Type} {key : R → Uuid} {missing failed : String} {id : Uuid} {row : R}

/-- Updates of one row, each when the one before it is done. -/
def updateAll (key : R → Uuid) (write : P → R → DateTime → R → R) (missing failed : String)
    (id : Uuid) : List (P × DateTime) → List R → Except String (List R)
  | [], rows => .ok rows
  | u :: log, rows =>
    (updateRow key write missing failed (fun _ => none) id u.1 u.2 rows).bind fun out =>
      updateAll key write missing failed id log out.2

/-- The repository's updates one after the other are `serial`. -/
theorem updateAll_serial (U : Updating R P DateTime C V F)
    (hkey : ∀ p read now r, key (U.write p read now r) = key r) {log : List (P × DateTime)}
    {rows : List R} (h : Table.find key id rows = some row) :
    ∃ rows', updateAll key U.write missing failed id log rows = .ok rows' ∧
      Table.find key id rows' = some (serial U row log) := by
  induction log generalizing rows row with
  | nil => exact ⟨rows, rfl, h⟩
  | cons u log ih =>
    have hfind : Table.find key id (Table.modify key id (U.write u.1 row u.2) rows) =
        some (U.write u.1 row u.2 row) := by
      rw [Table.find_modify_self fun r hr => (hkey _ _ _ r).trans hr, h]
      rfl
    obtain ⟨rows', hrows, hserial⟩ := ih hfind
    refine ⟨rows', ?_, hserial⟩
    rw [updateAll, updateRow_found h rfl]
    exact hrows

end

/-- What the updates of a row are to have done: in every table that holds the
row, as much as the repository does when they are run one after the other. -/
structure Merged {R P C V F : Type} (U : Updating R P DateTime C V F) (key : R → Uuid)
    (row : R) (s : State R P DateTime) : Prop where
  serial : Serial U row s
  alone : ∀ missing failed rows, Table.find key (key row) rows = some row →
    ∃ rows', updateAll key U.write missing failed (key row) s.log rows = .ok rows' ∧
      Table.find key (key row) rows' = some s.row

theorem merged_of_run {R P C V F : Type} {U : Updating R P DateTime C V F} {key : R → Uuid}
    (hkey : ∀ p read now r, key (U.write p read now r) = key r) {row : R}
    {s : State R P DateTime} (h : Run U (Settled U) ⟨row, [], []⟩ s) : Merged U key row s := by
  refine ⟨h.serial, fun missing failed rows hrow => ?_⟩
  rw [h.serial.serial]
  exact updateAll_serial U hkey hrow

/-- An update that overlaps with no other one. -/
theorem run_once {R P C V F : Type} {U : Updating R P DateTime C V F} {row : R} {p : P}
    {now : DateTime} (hcomplete : U.Complete p row) :
    Run U (Settled U) ⟨row, [], []⟩ ⟨U.write p row now row, [], [(p, now)]⟩ := by
  have hstart : Run U (Settled U) ⟨row, [], []⟩ ⟨row, [], []⟩ := .refl
  exact (hstart.read p).write (show _ = [] ++ (_, _) :: [] from rfl) now
    ⟨fun _ _ => rfl, hcomplete⟩

/-- A topic before its updates. -/
def sampleTopic : Topic where
  id := ⟨1⟩
  title := "Pecahan"
  teacherId := "7"

/-- A student progress record without a score. -/
def sampleProgress : StudentProgress where
  id := ⟨1⟩
  studentName := "Ani"

/-- A content without a title. -/
def sampleContent : Content where
  id := ⟨1⟩
  topicId := ⟨1⟩
  contentType := "quiz"

/-- A task without a description. -/
def sampleTask : MarketplaceTask where
  id := ⟨1⟩
  contentId := ⟨1⟩

/-- Two updates have read the topic; then one writes the title and one writes
the thumbnail. -/
theorem sampleTopic_run :
    Run topicUpdates (fun _ _ _ => True) ⟨sampleTopic, [], []⟩
      ⟨writeTopic { thumbnailUrl := some (some "t.svg") } sampleTopic 2
          (writeTopic { title := some "Desimal" } sampleTopic 1 sampleTopic),
        [], [({ title := some "Desimal" }, 1), ({ thumbnailUrl := some (some "t.svg") }, 2)]⟩ := by
  have hstart : Run topicUpdates (fun _ _ _ => True) ⟨sampleTopic, [], []⟩
      ⟨sampleTopic, [], []⟩ := .refl
  have hreads := (hstart.read { title := some "Desimal" }).read
    { thumbnailUrl := some (some "t.svg") }
  have hfirst := hreads.write (show _ = [] ++ (_, _) :: [_] from rfl) 1 trivial
  exact hfirst.write (show _ = [] ++ (_, _) :: [] from rfl) 2 trivial

/-- One update renames the student. -/
theorem sampleProgress_run :
    Run progressUpdates (fun _ _ _ => True) ⟨sampleProgress, [], []⟩
      ⟨writeProgress { studentName := some "Budi" } sampleProgress 1 sampleProgress,
        [], [({ studentName := some "Budi" }, 1)]⟩ := by
  have hstart : Run progressUpdates (fun _ _ _ => True) ⟨sampleProgress, [], []⟩
      ⟨sampleProgress, [], []⟩ := .refl
  exact (hstart.read { studentName := some "Budi" }).write
    (show _ = [] ++ (_, _) :: [] from rfl) 1 trivial

end KlassGateway.Db.Admin
