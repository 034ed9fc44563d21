import KlassGateway.Lib.Table
import KlassGateway.MediaGen.Publication
import KlassGateway.Orchestrator.AuditTrail
/-!
# The database

The tables that the pipeline uses, and what each call on them does.  A call is
one statement, or one transaction that holds a row lock from its first
statement to its commit, so every call is atomic.

* `RowStatement` are the calls that change one row of `media_generations`.
  `RowStatement.row` is the row that a call leaves, and `RowStatement.row_cases`
  says once what a call can do to the two status columns and the job id.
* `Query` are all calls.  `Query.exec` gives the answer and the next database.

An insertion checks the keys first and the references afterwards, and it
rejects texts that the columns cannot hold.
-/

namespace KlassGateway.Db

open Lib Orchestrator MediaGen

/-! ## Calls that change one row -/

/-- The calls that change one row of `media_generations`. -/
inductive RowStatement where
  | update (u : RowUpdate)
  | initializeAudit
  | transition (toStatus : MediaGenerationStatus) (context : Option Json) (attempt : Option Int)
      (jobContext : Option Json)
  | markFailed (errorCode errorMessage : String) (retryable : Bool) (context : Option Json)
      (attempt : Option Int) (jobContext : Option Json)
  | publish (topicId contentId : Uuid)

namespace RowStatement

/-- What the caller gets back.  The `none` of an audit transaction is a
panic. -/
def Resp : RowStatement → Type
  | update _ => Option MediaGeneration
  | publish _ _ => Except PublicationError PublishResult
  | _ => Option (Except AuditTrailError Unit)

variable (now : DateTime) (replies : PublicationReplies) (projectId : Int)

/-- The row after an audit transaction: unchanged unless it commits. -/
def committed (r : Option (Except AuditTrailError MediaGeneration)) (g : MediaGeneration) :
    MediaGeneration :=
  match r with
  | some (.ok g') => g'
  | _ => g

/-- What a publication commits, if it does. -/
def publication (g : MediaGeneration) : RowStatement → Option Publication
  | publish topicId contentId =>
    match publishRow replies topicId contentId projectId now g with
    | .ok pub => pub
    | .error _ => none
  | _ => none

/-- The row that the call leaves. -/
def row (g : MediaGeneration) : RowStatement → MediaGeneration
  | update u => u.apply now g
  | initializeAudit => initializeRow now g
  | transition toStatus context attempt jobContext =>
    committed (transitionRow toStatus context attempt jobContext now g) g
  | markFailed errorCode errorMessage retryable context attempt jobContext =>
    committed
      (markFailedRow errorCode errorMessage retryable context attempt jobContext now g) g
  | publish topicId contentId =>
    ((publication now replies projectId g (publish topicId contentId)).map Publication.row).getD g

/-- The answer of an audit transaction. -/
def audited (r : Option (Except AuditTrailError MediaGeneration)) :
    Option (Except AuditTrailError Unit) :=
  r.map fun e => e.map fun _ => ()

/-- The answer of the call on a row that exists. -/
def answer (g : MediaGeneration) : (s : RowStatement) → s.Resp
  | update u => some (u.apply now g)
  | initializeAudit => some (.ok ())
  | transition toStatus context attempt jobContext =>
    audited (transitionRow toStatus context attempt jobContext now g)
  | markFailed errorCode errorMessage retryable context attempt jobContext =>
    audited (markFailedRow errorCode errorMessage retryable context attempt jobContext now g)
  | publish topicId contentId =>
    (publishRow replies topicId contentId projectId now g).map fun
      | some pub =>
        { topicId := some pub.topic.id
          contentId := some pub.content.id
          recommendedProjectId := some pub.project.id }
      | none => {}

/-- The answer of the call when the row is not there. -/
def missing (id : Uuid) : (s : RowStatement) → s.Resp
  | update _ => none
  | initializeAudit => some (.error (.notFound id))
  | transition _ _ _ _ => some (.error (.notFound id))
  | markFailed _ _ _ _ _ _ => some (.error (.notFound id))
  | publish _ _ => .error (.notFound id)

/-! ## What a call can do to a row -/

/-- Either the transaction commits a row, or nothing changes. -/
private theorem committed_cases (g : MediaGeneration)
    (r : Option (Except AuditTrailError MediaGeneration)) :
    (∃ g', r = some (.ok g') ∧ committed r g = g') ∨ committed r g = g := by
  match r with
  | none => exact .inr rfl
  | some (.error _) => exact .inr rfl
  | some (.ok g') => exact .inl ⟨g', rfl, rfl⟩

/-- A call leaves the row alone, or it is one of five: an `UPDATE`, the seeding
of the audit payload, a transition by an edge of the matrix or as a re-run, a
failure of a row that is neither completed nor cancelled, or a publication. -/
theorem row_cases (g : MediaGeneration) (s : RowStatement) :
    s.row now replies projectId g = g ∨
    (∃ u, s = .update u ∧ s.row now replies projectId g = u.apply now g) ∨
    (∃ p u, s = .initializeAudit ∧ s.row now replies projectId g =
      { g with orchestrationAuditPayload := p, updatedAt := u }) ∨
    (∃ toStatus context attempt jobContext p,
      s = .transition toStatus context attempt jobContext ∧
      (g.status = toStatus ∨ g.status.canTransition toStatus) ∧
      s.row now replies projectId g = { g with
        status := toStatus
        orchestrationAuditPayload := some p
        errorCode := none
        errorMessage := none
        updatedAt := now }) ∨
    (∃ code message retryable context attempt jobContext p text,
      s = .markFailed code message retryable context attempt jobContext ∧
      (g.status ≠ .completed ∧ g.status ≠ .cancelled) ∧
      s.row now replies projectId g = { g with
        status := .failed
        generationStatus := some .failed
        orchestrationAuditPayload := some p
        errorCode := some code
        errorMessage := some text
        generationErrorCode := some code
        generationErrorMessage := some text
        updatedAt := now }) ∨
    (∃ topicId contentId path url thumb delivery type, s = .publish topicId contentId ∧
      s.row now replies projectId g = { g with
        topicId := some topicId
        contentId := some contentId
        recommendedProjectId := some projectId
        storagePath := path
        fileUrl := url
        thumbnailUrl := thumb
        deliveryPayload := delivery
        resolvedOutputType := some type
        updatedAt := now }) := by
  cases s with
  | update u => exact .inr (.inl ⟨u, rfl, rfl⟩)
  | initializeAudit =>
    obtain ⟨p, u, h⟩ := initializeRow_eq now g
    exact .inr (.inr (.inl ⟨p, u, rfl, h⟩))
  | transition toStatus context attempt jobContext =>
    obtain ⟨g', hr, hc⟩ | hc :=
      committed_cases g (transitionRow toStatus context attempt jobContext now g)
    · obtain ⟨hedge, p, rfl⟩ := transitionRow_ok hr
      exact .inr (.inr (.inr (.inl ⟨_, _, _, _, p, rfl, hedge, hc⟩)))
    · exact .inl hc
  | markFailed code message retryable context attempt jobContext =>
    obtain ⟨g', hr, hc⟩ | hc := committed_cases g
      (markFailedRow code message retryable context attempt jobContext now g)
    · obtain ⟨hopen, p, text, rfl⟩ := markFailedRow_ok hr
      exact .inr (.inr (.inr (.inr (.inl ⟨_, _, _, _, _, _, p, text, rfl, hopen, hc⟩))))
    · exact .inl hc
  | publish topicId contentId =>
    simp only [row, publication]
    split
    · next pub hpub =>
      cases pub with
      | none => exact .inl rfl
      | some pub =>
        obtain ⟨path, url, thumb, delivery, type, hrow⟩ := publishRow_row hpub
        exact .inr (.inr (.inr (.inr (.inr ⟨_, _, path, url, thumb, delivery, type, rfl, hrow⟩))))
    · exact .inl rfl

/-- No call changes the primary key. -/
@[simp] theorem row_id (g : MediaGeneration) (s : RowStatement) : (s.row now replies projectId g).id = g.id := by
  obtain h | ⟨u, _, h⟩ | ⟨_, _, _, h⟩ | ⟨_, _, _, _, _, _, _, h⟩ |
    ⟨_, _, _, _, _, _, _, _, _, _, h⟩ | ⟨_, _, _, _, _, _, _, _, h⟩ :=
      row_cases now replies projectId g s
  case inr.inl => rw [h]; cases u <;> rfl
  all_goals rw [h]

end RowStatement

/-! ## The tables -/

/-- A row of `subjects` or `sub_subjects`. -/
structure NamedRow where
  id : Int
  name : String
  slug : Option String := none

/-- The tables. -/
structure Database where
  rows : List MediaGeneration := []
  users : List Int := []
  subjects : List NamedRow := []
  subSubjects : List NamedRow := []
  topics : List Topic := []
  contents : List Content := []
  projects : List RecommendedProject := []

namespace Database

/-- A row of `media_generations` by its primary key. -/
def row (db : Database) (id : Uuid) : Option MediaGeneration :=
  Table.find MediaGeneration.id id db.rows

/-- Replace the row under `id`. -/
def modifyRow (db : Database) (id : Uuid) (f : MediaGeneration → MediaGeneration) : Database :=
  { db with rows := Table.modify MediaGeneration.id id f db.rows }

/-- Insert the entities of a publication. -/
def addEntities (db : Database) : Option Publication → Database
  | some pub =>
    { db with
      topics := db.topics ++ [pub.topic]
      contents := db.contents ++ [pub.content]
      projects := db.projects ++ [pub.project] }
  | none => db

@[simp] theorem addEntities_rows (db : Database) (pub : Option Publication) :
    (db.addEntities pub).rows = db.rows := by
  cases pub <;> rfl

/-- The next value of the `recommended_projects` sequence. -/
def nextProjectId (db : Database) : Int := db.projects.length + 1

/-- Whether `a` comes before `b` in `ORDER BY created_at DESC, id DESC`. -/
def comesBefore (a b : MediaGeneration) : Bool :=
  b.createdAt < a.createdAt || (a.createdAt == b.createdAt && b.id.value ≤ a.id.value)

/-- The row that `ORDER BY created_at DESC, id DESC LIMIT 1` picks. -/
def newest : List MediaGeneration → Option MediaGeneration
  | [] => none
  | g :: gs =>
    match newest gs with
    | none => some g
    | some h => if comesBefore g h then some g else some h

/-- An active duplicate: same teacher, same fingerprint, not terminal. -/
def isActiveDuplicate (teacherId : Int) (fingerprint : String) (g : MediaGeneration) : Bool :=
  g.teacherId == teacherId && g.requestFingerprint == fingerprint && !g.status.isTerminal

/-- A text that `VARCHAR(n)` or `TEXT` rejects: too long, or with a zero
character. -/
def textFault (limit : Option Nat) (s : String) : Option SqlxError :=
  if s.toList.contains (Char.ofNat 0) then
    some (.database "22021" "invalid byte sequence for encoding \"UTF8\": 0x00")
  else
    match limit with
    | some n =>
      if n < s.length then
        some (.database "22001"
          ("value too long for type character varying(" ++ toString n ++ ")"))
      else none
    | none => none

/-- The first text of an inserted row that its column rejects. -/
def columnFault (g : MediaGeneration) : Option SqlxError :=
  let optional (n : Nat) (s : Option String) : Option SqlxError := s.bind (textFault (some n))
  ((((textFault none g.rawPrompt).or (optional 100 g.llmProvider)).or
    (optional 200 g.llmModel)).or (optional 100 g.generatorProvider)).or
    (optional 200 g.generatorModel)

/-- Whether a key of `row` is taken: the primary key, or the partial unique
index on `active_duplicate_key`. -/
def keyTaken (db : Database) (row : MediaGeneration) : Bool :=
  db.rows.any fun g =>
    g.id == row.id ||
      (row.activeDuplicateKey.isSome && g.activeDuplicateKey == row.activeDuplicateKey)

/-- Whether the teacher, the subject and the sub-subject of `row` exist. -/
def referencesExist (db : Database) (row : MediaGeneration) : Bool :=
  db.users.contains row.teacherId &&
    row.subjectId.all (fun id => db.subjects.any (·.id == id)) &&
    row.subSubjectId.all (fun id => db.subSubjects.any (·.id == id))

/-- What an `INSERT` into `media_generations` fails with. -/
def insertFault (db : Database) (row : MediaGeneration) : Option SqlxError :=
  match columnFault row with
  | some e => some e
  | none =>
    if db.keyTaken row then
      some (.database "23505"
        "duplicate key value violates unique constraint \"idx_media_generations_duplicate_key\"")
    else if db.referencesExist row then none
    else some (.database "23503"
      "insert or update on table \"media_generations\" violates foreign key constraint")

theorem insertFault_eq_none {db : Database} {row : MediaGeneration} (hcolumn : columnFault row = none)
    (hkey : ∀ g ∈ db.rows, g.id ≠ row.id ∧
      (row.activeDuplicateKey.isSome → g.activeDuplicateKey ≠ row.activeDuplicateKey))
    (hrefs : db.referencesExist row) : db.insertFault row = none := by
  have hfree : ¬ db.keyTaken row := by simpa [keyTaken] using hkey
  rw [insertFault, hcolumn]
  simp only [hfree, hrefs, if_true]
  rfl

theorem accepted_of_insertFault {db : Database} {row : MediaGeneration}
    (h : db.insertFault row = none) : columnFault row = none ∧ db.referencesExist row := by
  unfold insertFault at h
  split at h
  · cases h
  · next hcolumn =>
    split at h
    · cases h
    · split at h
      · next hrefs => exact ⟨hcolumn, hrefs⟩
      · cases h

/-- The row with the defaults of its time columns. -/
def stamp (now : DateTime) (row : MediaGeneration) : MediaGeneration :=
  { row with createdAt := now, updatedAt := now }

/-- `INSERT` into `media_generations`. -/
def insert (db : Database) (now : DateTime) (row : MediaGeneration) :
    Except SqlxError Unit × Database :=
  match db.insertFault row with
  | some e => (.error e, db)
  | none => (.ok (), { db with rows := db.rows ++ [stamp now row] })

theorem insert_of_none {db : Database} {row : MediaGeneration} (h : db.insertFault row = none)
    (now : DateTime) : db.insert now row =
      (.ok (), { db with rows := db.rows ++ [stamp now row] }) := by
  rw [insert, h]

theorem insert_of_some {db : Database} {row : MediaGeneration} {e : SqlxError}
    (h : db.insertFault row = some e) (now : DateTime) : db.insert now row = (.error e, db) := by
  rw [insert, h]

end Database

/-! ## All calls -/

/-- The columns that `ComposeStepAdapter::compose` selects. -/
structure ComposeRow where
  title : Option String
  resolvedOutputType : Option String
  fileUrl : Option String
  mimeType : Option String
  thumbnailUrl : Option String
  filename : Option String
  previewSummary : Option String

/-- The database calls. -/
inductive Query where
  /-- A `SELECT` on one row by its primary key. -/
  | findById (id : Uuid)
  /-- `find_by_job_id`. -/
  | findByJobId (jobId : Uuid)
  /-- The duplicate lookup of `create_or_reuse`. -/
  | findActiveDuplicate (teacherId : Int) (fingerprint : String)
  | findSubject (id : Int)
  | findSubSubject (id : Int)
  /-- The `INSERT` of `create_or_reuse`. -/
  | insertSubmission (row : MediaGeneration)
  /-- The `INSERT ... SELECT` of `create_regeneration`. -/
  | insertRegeneration (parentId : Uuid) (row : MediaGeneration)
  /-- A call that changes one row. -/
  | onRow (id : Uuid) (s : RowStatement)
  /-- The `SELECT` of `compose`. -/
  | composeRow (id : Uuid)

namespace Query

/-- The value that a call returns when it succeeds. -/
def Resp : Query → Type
  | findById _ => Option MediaGeneration
  | findByJobId _ => Option MediaGeneration
  | findActiveDuplicate _ _ => Option Uuid
  | findSubject _ => Option NamedRow
  | findSubSubject _ => Option NamedRow
  | insertSubmission _ => Unit
  | insertRegeneration _ _ => Unit
  | onRow _ s => s.Resp
  | composeRow _ => ComposeRow

/-- The generation that a call is about, if it names one. -/
def generation : Query → Option Uuid
  | findById id => some id
  | insertSubmission row => some row.id
  | insertRegeneration _ row => some row.id
  | onRow id _ => some id
  | composeRow id => some id
  | _ => none

/-- Run a call. -/
def exec (now : DateTime) (replies : PublicationReplies) (db : Database) :
    (q : Query) → Except SqlxError q.Resp × Database
  | findById id => (.ok (db.row id), db)
  | findByJobId jobId => (.ok (db.rows.find? fun g => g.generationJobId == some jobId), db)
  | findActiveDuplicate teacherId fingerprint =>
    (.ok ((Database.newest
      (db.rows.filter (Database.isActiveDuplicate teacherId fingerprint))).map
        MediaGeneration.id), db)
  | findSubject id => (.ok (db.subjects.find? fun r => r.id == id), db)
  | findSubSubject id => (.ok (db.subSubjects.find? fun r => r.id == id), db)
  | insertSubmission row => db.insert now row
  | insertRegeneration parentId row =>
    match db.row parentId with
    | some parent => db.insert now { row with teacherId := parent.teacherId }
    | none =>
      (.error (.other "no rows returned by a query that expected to return at least one row"), db)
  | onRow id s =>
    match db.row id with
    | some g =>
      (.ok (s.answer now replies db.nextProjectId g),
        (db.modifyRow id fun g => s.row now replies db.nextProjectId g).addEntities
          (s.publication now replies db.nextProjectId g))
    | none => (.ok (s.missing id), db)
  -- The table has no column of this name.
  | composeRow _ => (.error (.database "42703" "column \"filename\" does not exist"), db)

end Query

end KlassGateway.Db
