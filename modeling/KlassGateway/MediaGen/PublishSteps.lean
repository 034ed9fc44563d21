import KlassGateway.Db.Database
/-!
# A publication step by step

`publishRow` reads `publish_inner` as one step on the locked row.  Here the same
function runs statement by statement, with the object store beside the
database: the transaction works on a copy that the commit makes the database,
objects are put and deleted at once, and `publish` compensates for a failure by
deleting the uploads it has noted.

Every other party answers each call at most once, so its answers are a record.
A put that fails may have stored its object all the same, and a commit that
fails may have been applied.

* `publish_eq_exec`: when the statements succeed, the steps leave the answer and
  the database of the one step that the pipeline takes.
-/

namespace KlassGateway.MediaGen

open Lib Db Storage

/-- How a commit ends. -/
inductive CommitReply where
  | done
  | failed (e : SqlxError) (applied : Bool)

/-- What the other parties answer during one publication. -/
structure PublishReplies extends PublicationReplies where
  beginTx : Except SqlxError Unit := .ok ()
  lockRow : Except SqlxError Unit := .ok ()
  /-- `ThumbnailGenerator::generate`. -/
  generated : Except PublicationError (List UInt8 × String) := .ok ([0], svgMime)
  /-- A put of the thumbnail that fails stores the object. -/
  thumbnailStored : Bool := false
  /-- A put of the artifact that fails stores the object. -/
  artifactStored : Bool := false
  insertTopic : Except SqlxError Unit := .ok ()
  insertContent : Except SqlxError Unit := .ok ()
  insertProject : Except SqlxError Unit := .ok ()
  updateRow : Except SqlxError Unit := .ok ()
  commit : CommitReply := .done
  /-- Whether the delete of an object succeeds. -/
  deletes : String → Bool := fun _ => true

/-- The state of one publication. -/
structure PublishState where
  /-- The committed tables. -/
  db : Database
  /-- The tables as the open transaction sees them. -/
  tx : Database
  /-- The keys in the bucket. -/
  objects : List String
  /-- `uploaded_paths`. -/
  uploadedPaths : List String := []
  /-- The keys that this call has put into the bucket. -/
  stored : List String := []

/-- The steps of a publication. -/
abbrev PublishM := ExceptT PublicationError (StateM PublishState)

/-! ## Single steps -/

/-- A statement of the transaction. -/
def statement (reply : Except SqlxError Unit) (f : Database → Database) : PublishM Unit :=
  match reply with
  | .error e => throw (.database e)
  | .ok () => modify fun s => { s with tx := f s.tx }

/-- `tx.commit()`. -/
def commitTx (reply : CommitReply) : PublishM Unit :=
  match reply with
  | .done => modify fun s => { s with db := s.tx }
  | .failed e applied => do
    if applied then modify fun s => { s with db := s.tx }
    throw (.database e)

/-- The key that `upload` puts an object under, unless one of its checks rejects
the object. -/
def uploadKey (category : String) (bytes : List UInt8) (contentType filename : String) :
    Option String :=
  (upload "" category bytes contentType { filename }).toOption.map UploadResult.path

/-- An object is in the bucket. -/
def store (key : Option String) (s : PublishState) : PublishState :=
  match key with
  | some key => { s with objects := key :: s.objects, stored := key :: s.stored }
  | none => s

/-- `upload`, with its effect on the bucket. -/
def putObject (publicUrlBase category : String) (bytes : List UInt8) (contentType : String)
    (put : PutReply) (storedAnyway : Bool) : PublishM UploadResult := do
  if put.result.isOk || storedAnyway then
    modify (store (uploadKey category bytes contentType put.filename))
  match upload publicUrlBase category bytes contentType put with
  | .ok r => return r
  | .error e => throw (.upload e)

/-- The picture that `resolve_thumbnail` puts: its category, bytes and media
type. -/
def thumbnailPicture (response : Json) (replies : PublishReplies) :
    Except PublicationError (String × List UInt8 × String) :=
  let rendererUrl := (((response.get "thumbnail_url").or
    (response.pointer ["response", "thumbnail_url"])).bind Json.asStr).filter (· ≠ "")
  let fallback := replies.generated.map fun picture => ("gallery", picture)
  match rendererUrl, replies.thumbnail with
  | some _, .ok (status, b :: bs) =>
    if 200 ≤ status ∧ status < 300 then .ok ("materials", b :: bs, svgMime) else fallback
  | _, _ => fallback

/-- `resolve_thumbnail`. -/
def putThumbnail (response : Json) (replies : PublishReplies) : PublishM (Option String) := do
  let (category, bytes, mimeType) ← thumbnailPicture response replies
  let result ← putObject replies.r2PublicUrl category bytes mimeType replies.putThumbnail
    replies.thumbnailStored
  return some result.publicUrl

/-! ## The publication -/

/-- The columns of the `UPDATE`. -/
def publishedRow (topicId contentId : Uuid) (projectId : Int) (result : UploadResult)
    (thumbnailUrl : Option String) (deliveryPayload : Json) (outputType : String)
    (now : DateTime) (g : MediaGeneration) : MediaGeneration :=
  { g with
    topicId := some topicId
    contentId := some contentId
    recommendedProjectId := some projectId
    storagePath := some result.path
    fileUrl := some result.publicUrl
    thumbnailUrl := thumbnailUrl
    deliveryPayload := some deliveryPayload
    resolvedOutputType := some outputType
    updatedAt := now }

/-- Steps 7 to 10 of `publish_inner` and the commit. -/
def commitPublication (replies : PublishReplies) (topicId contentId : Uuid) (now : DateTime)
    (g : MediaGeneration) (outputType mimeType : String) (response : Json)
    (result : UploadResult) (thumbnailUrl : Option String) : PublishM PublishResult := do
  let title := ((g.interpretationPayload.bind (Json.pointer ["document_blueprint", "title"])).bind
    Json.asStr).getD "Generated Topic"
  statement replies.insertTopic fun db =>
    { db with topics := db.topics ++ [{ id := topicId, title, ownerUserId := g.teacherId }] }
  statement replies.insertContent fun db =>
    { db with contents := db.contents ++
        [{ id := contentId
           topicId
           contentType := contentTypeFromOutput outputType
           title
           mediaUrl := result.publicUrl }] }
  let projectId := (← get).tx.nextProjectId
  statement replies.insertProject fun db =>
    { db with projects := db.projects ++
        [{ id := projectId
           title
           projectFileUrl := result.publicUrl
           thumbnailUrl
           sourceReference := g.id.toText }] }
  let previewUrl := (response.pointer ["artifact_metadata", "preview_url"]).bind Json.asStr
  let deliveryPayload :=
    buildDeliveryPayload result.publicUrl thumbnailUrl outputType mimeType previewUrl
  statement replies.updateRow fun db => db.modifyRow g.id
    (publishedRow topicId contentId projectId result thumbnailUrl deliveryPayload outputType now)
  commitTx replies.commit
  return {
    topicId := some topicId
    contentId := some contentId
    recommendedProjectId := some projectId }

/-- Steps 5 and 6 of `publish_inner`, and the rest. -/
def uploadAndCommit (replies : PublishReplies) (topicId contentId : Uuid) (now : DateTime)
    (g : MediaGeneration) (outputType mimeType : String) (response : Json)
    (bytes : List UInt8) : PublishM PublishResult := do
  let thumbnailUrl ← putThumbnail response replies
  let result ← putObject replies.r2PublicUrl "materials" bytes mimeType replies.putArtifact
    replies.artifactStored
  modify fun s => { s with uploadedPaths := s.uploadedPaths ++ [result.path] }
  commitPublication replies topicId contentId now g outputType mimeType response result
    thumbnailUrl

/-- The output type of a row and the media type of its artifact. -/
def mediaTypes (g : MediaGeneration) : String × String :=
  let outputType := g.resolvedOutputType.getD "pdf"
  (outputType, g.mimeType.getD (defaultMimeFor outputType))

/-- Steps 2 to 4 of `publish_inner`: the response and the artifact, checked. -/
def fetchArtifact (replies : PublishReplies) (g : MediaGeneration) :
    Except PublicationError (Json × List UInt8) := do
  let response ← okOr .missingArtifact g.generatorServiceResponse
  let _ ← artifactUrl response replies.toPublicationReplies
  let bytes ← downloadArtifact replies.artifact
  validateIntegrity bytes (mediaTypes g).2
  return (response, bytes)

/-- `publish_inner` on the locked row. -/
def publishLocked (replies : PublishReplies) (topicId contentId : Uuid) (now : DateTime)
    (g : MediaGeneration) : PublishM PublishResult := do
  if g.status = .completed ∨ g.status = .cancelled then
    commitTx replies.commit
    return {}
  else
    let (response, bytes) ← fetchArtifact replies g
    uploadAndCommit replies topicId contentId now g (mediaTypes g).1 (mediaTypes g).2 response bytes

/-- `publish_inner`. -/
def publishInner (replies : PublishReplies) (topicId contentId : Uuid) (now : DateTime)
    (generationId : Uuid) : PublishM PublishResult := do
  statement replies.beginTx id
  statement replies.lockRow id
  match (← get).tx.row generationId with
  | some g => publishLocked replies topicId contentId now g
  | none => throw (.notFound generationId)

/-- `compensate_uploaded_files`. -/
def compensateUploadedFiles (replies : PublishReplies) (s : PublishState) : PublishState :=
  { s with objects := s.objects.filter fun key =>
      !(s.uploadedPaths.contains key && replies.deletes key) }

/-- The outcome and the last state of some steps. -/
def exec {α : Type} (m : PublishM α) (s : PublishState) :
    Except PublicationError α × PublishState := m.run.run s

/-- `publish` on the database and the bucket. -/
def publishSteps (replies : PublishReplies) (topicId contentId : Uuid) (now : DateTime)
    (generationId : Uuid) (db : Database) (objects : List String) :
    Except PublicationError PublishResult × PublishState :=
  match exec (publishInner replies topicId contentId now generationId)
      { db, tx := db, objects } with
  | (.ok result, s) => (.ok result, s)
  | (.error e, s) => (.error e, compensateUploadedFiles replies s)

/-! ## Running the steps -/

section Exec

variable {α β : Type} (s : PublishState)

@[simp] theorem exec_pure (a : α) : exec (pure a) s = (.ok a, s) := rfl

@[simp] theorem exec_throw (e : PublicationError) :
    exec (throw e : PublishM α) s = (.error e, s) := rfl

@[simp] theorem exec_modify (f : PublishState → PublishState) :
    exec (modify f) s = (.ok (), f s) := rfl

@[simp] theorem exec_get : exec get s = (.ok s, s) := rfl

@[simp] theorem exec_lift (r : Except PublicationError α) :
    exec (liftM r : PublishM α) s = (r, s) := rfl

/-- `?`. -/
theorem exec_bind (m : PublishM α) (f : α → PublishM β) :
    exec (m >>= f) s =
      match exec m s with
      | (.ok a, s') => exec (f a) s'
      | (.error e, s') => (.error e, s') := by
  unfold exec
  rw [ExceptT.run_bind, StateT.run_bind]
  show (match m.run.run s with | (r, s') => _) = _
  rcases m.run.run s with ⟨r, s'⟩
  cases r <;> rfl

end Exec

/-! ## Uploads -/

/-- Either a check rejects the object, or it has a key and the answer of the put
decides. -/
theorem upload_cases (base category : String) (bytes : List UInt8) (contentType : String)
    (put : PutReply) :
    (uploadKey category bytes contentType put.filename = none ∧
      ∃ e, upload base category bytes contentType put = .error e) ∨
    ∃ key, uploadKey category bytes contentType put.filename = some key ∧
      upload base category bytes contentType put =
        match put.result with
        | .error e => .error ("failed to upload '" ++ key ++ "' to R2: " ++ e)
        | .ok () => .ok { path := key, publicUrl := generatePublicUrl base key } := by
  unfold uploadKey upload
  split
  · exact .inl ⟨rfl, _, rfl⟩
  · split
    · exact .inl ⟨rfl, _, rfl⟩
    · split
      · exact .inl ⟨rfl, _, rfl⟩
      · split
        · exact .inl ⟨rfl, _, rfl⟩
        · exact .inr ⟨_, rfl, rfl⟩

/-- A rejected object is not put. -/
theorem exec_putObject_of_none {base category contentType : String} {bytes : List UInt8}
    {put : PutReply} {storedAnyway : Bool} {s : PublishState}
    (hkey : uploadKey category bytes contentType put.filename = none) :
    ∃ e, exec (putObject base category bytes contentType put storedAnyway) s = (.error e, s) := by
  rcases upload_cases base category bytes contentType put with ⟨_, e, hup⟩ | ⟨key, hsome, _⟩
  · refine ⟨.upload e, ?_⟩
    unfold putObject
    rw [hup, hkey]
    cases (put.result.isOk || storedAnyway) <;> rfl
  · rw [hkey] at hsome
    cases hsome

/-- An object that passes the checks is stored under its key when the put
succeeds, and may be stored when it fails. -/
theorem exec_putObject_of_some {base category contentType key : String} {bytes : List UInt8}
    {put : PutReply} {storedAnyway : Bool} {s : PublishState}
    (hkey : uploadKey category bytes contentType put.filename = some key) :
    exec (putObject base category bytes contentType put storedAnyway) s =
      match put.result with
      | .ok () =>
        (.ok { path := key, publicUrl := generatePublicUrl base key }, store (some key) s)
      | .error e =>
        (.error (.upload ("failed to upload '" ++ key ++ "' to R2: " ++ e)),
          if storedAnyway then store (some key) s else s) := by
  rcases upload_cases base category bytes contentType put with ⟨hnone, _⟩ | ⟨key', hsome, hup⟩
  · rw [hkey] at hnone
    cases hnone
  · rw [hkey] at hsome
    obtain rfl := Option.some.inj hsome
    unfold putObject
    rw [hup, hkey]
    cases put.result with
    | ok _ => rfl
    | error e => cases storedAnyway <;> rfl

/-- A put answers as `upload` does, and it touches the bucket only. -/
theorem exec_putObject (base category : String) (bytes : List UInt8) (contentType : String)
    (put : PutReply) (storedAnyway : Bool) (s : PublishState) :
    ∃ s', exec (putObject base category bytes contentType put storedAnyway) s =
        ((upload base category bytes contentType put).mapError .upload, s') ∧
      s'.db = s.db ∧ s'.tx = s.tx := by
  rcases upload_cases base category bytes contentType put with ⟨hnone, e, hup⟩ | ⟨key, hsome, hup⟩
  · refine ⟨s, ?_, rfl, rfl⟩
    rw [hup]
    unfold putObject
    rw [hup, hnone]
    cases (put.result.isOk || storedAnyway) <;> rfl
  · rw [exec_putObject_of_some hsome, hup]
    cases put.result with
    | ok _ => exact ⟨_, rfl, rfl, rfl⟩
    | error e =>
      refine ⟨_, rfl, ?_, ?_⟩
      · cases storedAnyway <;> rfl
      · cases storedAnyway <;> rfl

/-! ## Steps that leave the bucket alone -/

/-- Only the database differs. -/
def SameBucket (s s' : PublishState) : Prop :=
  s'.objects = s.objects ∧ s'.stored = s.stored ∧ s'.uploadedPaths = s.uploadedPaths

theorem SameBucket.refl (s : PublishState) : SameBucket s s := ⟨rfl, rfl, rfl⟩

theorem SameBucket.trans {s t u : PublishState} (h : SameBucket s t) (h' : SameBucket t u) :
    SameBucket s u :=
  ⟨h'.1.trans h.1, h'.2.1.trans h.2.1, h'.2.2.trans h.2.2⟩

/-- Steps after which only the database differs. -/
def OnDatabase {α : Type} (m : PublishM α) : Prop := ∀ s, SameBucket s (exec m s).2

theorem onDatabase_bind {α β : Type} {m : PublishM α} {f : α → PublishM β} (hm : OnDatabase m)
    (hf : ∀ a, OnDatabase (f a)) : OnDatabase (m >>= f) := by
  intro s
  rw [exec_bind]
  have hfirst := hm s
  rcases hexec : exec m s with ⟨r, s'⟩
  rw [hexec] at hfirst
  cases r with
  | ok a => exact hfirst.trans (hf a s')
  | error e => exact hfirst

theorem onDatabase_statement (reply : Except SqlxError Unit) (f : Database → Database) :
    OnDatabase (statement reply f) := by
  intro s
  cases reply <;> exact .refl s

theorem onDatabase_commitTx (reply : CommitReply) : OnDatabase (commitTx reply) := by
  intro s
  match reply with
  | .done => exact .refl s
  | .failed e true => exact .refl s
  | .failed e false => exact .refl s

/-- From the first `INSERT` on, nothing is put into the bucket. -/
theorem onDatabase_commitPublication (replies : PublishReplies) (topicId contentId : Uuid)
    (now : DateTime) (g : MediaGeneration) (outputType mimeType : String) (response : Json)
    (result : UploadResult) (thumbnailUrl : Option String) :
    OnDatabase (commitPublication replies topicId contentId now g outputType mimeType response
      result thumbnailUrl) := by
  unfold commitPublication
  apply onDatabase_bind (onDatabase_statement _ _)
  intro _
  apply onDatabase_bind (onDatabase_statement _ _)
  intro _
  apply onDatabase_bind (m := get)
  · exact .refl
  intro s
  apply onDatabase_bind (onDatabase_statement _ _)
  intro _
  apply onDatabase_bind (onDatabase_statement _ _)
  intro _
  apply onDatabase_bind (onDatabase_commitTx _)
  intro _
  exact .refl

/-! ## The steps as one step -/

/-- Every statement succeeds, and the picture is the default generator's. -/
structure PublishReplies.StatementsSucceed (replies : PublishReplies) : Prop where
  beginTx : replies.beginTx = .ok ()
  lockRow : replies.lockRow = .ok ()
  generated : replies.generated = .ok ([0], svgMime)
  insertTopic : replies.insertTopic = .ok ()
  insertContent : replies.insertContent = .ok ()
  insertProject : replies.insertProject = .ok ()
  updateRow : replies.updateRow = .ok ()
  commit : replies.commit = .done

section Refinement

variable {replies : PublishReplies} {topicId contentId : Uuid} {now : DateTime}

/-- `resolve_thumbnail` puts one picture. -/
theorem resolveThumbnail_eq (hok : replies.StatementsSucceed) (response : Json) :
    resolveThumbnail response replies.toPublicationReplies =
      (thumbnailPicture response replies).bind fun (category, bytes, mimeType) =>
        ((upload replies.r2PublicUrl category bytes mimeType replies.putThumbnail).mapError
          .upload).map fun r => some r.publicUrl := by
  have hput (category : String) (bytes : List UInt8) :
      (match upload replies.r2PublicUrl category bytes svgMime replies.putThumbnail with
        | .ok r => .ok (some r.publicUrl)
        | .error e => .error (PublicationError.upload e)) =
      ((upload replies.r2PublicUrl category bytes svgMime replies.putThumbnail).mapError
        PublicationError.upload).map fun r => some r.publicUrl := by
    cases upload replies.r2PublicUrl category bytes svgMime replies.putThumbnail <;> rfl
  unfold resolveThumbnail thumbnailPicture
  rw [hok.generated]
  generalize (((response.get "thumbnail_url").or
    (response.pointer ["response", "thumbnail_url"])).bind Json.asStr).filter (· ≠ "") = url
  generalize replies.thumbnail = reply
  match url, reply with
  | none, _ => exact hput _ _
  | some _, .error _ => exact hput _ _
  | some _, .ok (_, []) => exact hput _ _
  | some _, .ok (status, b :: bs) =>
    by_cases hstatus : 200 ≤ status ∧ status < 300
    · simp only [if_pos hstatus]
      exact hput _ _
    · simp only [if_neg hstatus]
      exact hput _ _

/-- The delivery payload of a publication. -/
def deliveryOf (g : MediaGeneration) (response : Json) (result : UploadResult)
    (thumbnailUrl : Option String) : Json :=
  let previewUrl := (response.pointer ["artifact_metadata", "preview_url"]).bind Json.asStr
  buildDeliveryPayload result.publicUrl thumbnailUrl (mediaTypes g).1 (mediaTypes g).2 previewUrl

/-- The publication that the statements after the uploads commit. -/
def publicationOf (topicId contentId : Uuid) (projectId : Int) (now : DateTime)
    (g : MediaGeneration) (response : Json) (result : UploadResult)
    (thumbnailUrl : Option String) : Publication :=
  let title := ((g.interpretationPayload.bind (Json.pointer ["document_blueprint", "title"])).bind
    Json.asStr).getD "Generated Topic"
  { topic := { id := topicId, title, ownerUserId := g.teacherId }
    content :=
      { id := contentId
        topicId
        contentType := contentTypeFromOutput (mediaTypes g).1
        title
        mediaUrl := result.publicUrl }
    project :=
      { id := projectId
        title
        projectFileUrl := result.publicUrl
        thumbnailUrl
        sourceReference := g.id.toText }
    row := publishedRow topicId contentId projectId result thumbnailUrl
      (deliveryOf g response result thumbnailUrl) (mediaTypes g).1 now g }

/-- The picture is put as `resolve_thumbnail` says. -/
theorem exec_putThumbnail (hok : replies.StatementsSucceed) (response : Json) (s : PublishState) :
    ∃ s', exec (putThumbnail response replies) s =
        (resolveThumbnail response replies.toPublicationReplies, s') ∧
      s'.db = s.db ∧ s'.tx = s.tx := by
  rw [resolveThumbnail_eq hok]
  unfold putThumbnail
  rw [exec_bind, exec_lift]
  cases thumbnailPicture response replies with
  | error e => exact ⟨s, rfl, rfl, rfl⟩
  | ok picture =>
    obtain ⟨category, bytes, mimeType⟩ := picture
    obtain ⟨s', hput, hdb⟩ := exec_putObject replies.r2PublicUrl category bytes mimeType
      replies.putThumbnail replies.thumbnailStored s
    refine ⟨s', ?_, hdb⟩
    show exec (putObject _ category bytes mimeType _ _ >>= _) s = _
    rw [exec_bind, hput]
    show _ = (((upload replies.r2PublicUrl category bytes mimeType
      replies.putThumbnail).mapError PublicationError.upload).map _, s')
    cases upload replies.r2PublicUrl category bytes mimeType replies.putThumbnail <;> rfl

/-- `publishRow` from the thumbnail on. -/
def publishFetched (replies : PublicationReplies) (topicId contentId : Uuid) (projectId : Int)
    (now : DateTime) (g : MediaGeneration) (response : Json) (bytes : List UInt8) :
    Except PublicationError (Option Publication) := do
  let thumbnailUrl ← resolveThumbnail response replies
  let result ← (upload replies.r2PublicUrl "materials" bytes (mediaTypes g).2
    replies.putArtifact).mapError PublicationError.upload
  return some (publicationOf topicId contentId projectId now g response result thumbnailUrl)

/-- `publishRow` fetches the artifact first. -/
theorem publishRow_eq {projectId : Int} {g : MediaGeneration}
    (hopen : ¬ (g.status = .completed ∨ g.status = .cancelled)) :
    publishRow replies.toPublicationReplies topicId contentId projectId now g =
      fetchArtifact replies g >>= fun (response, bytes) =>
        publishFetched replies.toPublicationReplies topicId contentId projectId now g response
          bytes := by
  unfold publishRow fetchArtifact
  rw [if_neg hopen]
  simp only [bind_assoc, pure_bind]
  rfl

/-- The statements after the uploads commit the publication. -/
theorem exec_commitPublication (hok : replies.StatementsSucceed) {g : MediaGeneration}
    {response : Json} {result : UploadResult} {thumbnailUrl : Option String} {s : PublishState}
    (hnd : (s.tx.rows.map MediaGeneration.id).Nodup) (hg : s.tx.row g.id = some g) {pub : Publication}
    (hpub : publicationOf topicId contentId s.tx.nextProjectId now g response result thumbnailUrl =
      pub) :
    ∃ s', exec (commitPublication replies topicId contentId now g (mediaTypes g).1 (mediaTypes g).2
        response result thumbnailUrl) s =
        (.ok { topicId := some pub.topic.id
               contentId := some pub.content.id
               recommendedProjectId := some pub.project.id }, s') ∧
      s'.db = (s.tx.modifyRow g.id fun _ => pub.row).addEntities (some pub) := by
  subst hpub
  have hrows : s.tx.modifyRow g.id (publishedRow topicId contentId s.tx.nextProjectId result
      thumbnailUrl (deliveryOf g response result thumbnailUrl) (mediaTypes g).1 now) =
      s.tx.modifyRow g.id fun _ => (publicationOf topicId contentId s.tx.nextProjectId now g response
        result thumbnailUrl).row := by
    have hmodify : ∀ f : MediaGeneration → MediaGeneration, s.tx.modifyRow g.id f =
        { s.tx with rows := Table.modify MediaGeneration.id g.id f s.tx.rows } := fun _ => rfl
    rw [hmodify, hmodify, Table.modify_congr hnd hg]
    rfl
  rw [← hrows]
  unfold commitPublication
  rw [hok.insertTopic, hok.insertContent, hok.insertProject, hok.updateRow, hok.commit]
  exact ⟨_, rfl, rfl⟩

/-- The tables after the one step on a row. -/
def afterPublish (db : Database) (g : MediaGeneration) :
    Except PublicationError (Option Publication) → Database
  | .ok (some pub) => (db.modifyRow g.id fun _ => pub.row).addEntities (some pub)
  | _ => db

/-- The answer of the one step. -/
def publishAnswer : Option Publication → PublishResult
  | some pub =>
    { topicId := some pub.topic.id
      contentId := some pub.content.id
      recommendedProjectId := some pub.project.id }
  | none => {}

/-- From the thumbnail on, the steps are the one step. -/
theorem exec_uploadAndCommit (hok : replies.StatementsSucceed) {g : MediaGeneration}
    {response : Json} {bytes : List UInt8} {s : PublishState} (hs : s.tx = s.db)
    (hnd : (s.tx.rows.map MediaGeneration.id).Nodup) (hg : s.tx.row g.id = some g) :
    ∃ s', exec (uploadAndCommit replies topicId contentId now g (mediaTypes g).1 (mediaTypes g).2
        response bytes) s =
        ((publishFetched replies.toPublicationReplies topicId contentId s.tx.nextProjectId now g
          response bytes).map publishAnswer, s') ∧
      s'.db = afterPublish s.tx g (publishFetched replies.toPublicationReplies topicId contentId
        s.tx.nextProjectId now g response bytes) := by
  obtain ⟨s₁, hthumbnail, hdb₁, htx₁⟩ := exec_putThumbnail hok response s
  unfold uploadAndCommit publishFetched
  rw [exec_bind, hthumbnail]
  cases resolveThumbnail response replies.toPublicationReplies with
  | error e => exact ⟨s₁, rfl, hdb₁.trans hs.symm⟩
  | ok thumbnailUrl =>
    obtain ⟨s₂, hartifact, hdb₂, htx₂⟩ := exec_putObject replies.r2PublicUrl "materials" bytes
      (mediaTypes g).2 replies.putArtifact replies.artifactStored s₁
    show ∃ s', exec (putObject _ "materials" bytes _ _ _ >>= _) s₁ = _ ∧ _
    rw [exec_bind, hartifact]
    cases hup : upload replies.r2PublicUrl "materials" bytes (mediaTypes g).2 replies.putArtifact with
    | error e => exact ⟨s₂, rfl, (hdb₂.trans hdb₁).trans hs.symm⟩
    | ok result =>
      have htx : s₂.tx = s.tx := htx₂.trans htx₁
      rw [← htx] at hnd hg ⊢
      exact @exec_commitPublication replies topicId contentId now hok g response result thumbnailUrl
        { s₂ with uploadedPaths := s₂.uploadedPaths ++ [result.path] } hnd hg _ rfl

/-- The steps on the locked row are the one step on it. -/
theorem exec_publishLocked (hok : replies.StatementsSucceed) {g : MediaGeneration}
    {s : PublishState} (hs : s.tx = s.db) (hnd : (s.tx.rows.map MediaGeneration.id).Nodup)
    (hg : s.tx.row g.id = some g) :
    ∃ s', exec (publishLocked replies topicId contentId now g) s =
        ((publishRow replies.toPublicationReplies topicId contentId s.tx.nextProjectId now g).map
          publishAnswer, s') ∧
      s'.db = afterPublish s.tx g
        (publishRow replies.toPublicationReplies topicId contentId s.tx.nextProjectId now g) := by
  unfold publishLocked
  by_cases hopen : g.status = .completed ∨ g.status = .cancelled
  · rw [publishRow, if_pos hopen, if_pos hopen, hok.commit]
    exact ⟨_, rfl, rfl⟩
  · rw [publishRow_eq hopen, if_neg hopen, exec_bind, exec_lift]
    cases fetchArtifact replies g with
    | error e => exact ⟨s, rfl, hs.symm⟩
    | ok fetched => exact exec_uploadAndCommit hok hs hnd hg

/-- `publish` answers and commits what `publish_inner` does. -/
theorem publishSteps_eq (generationId : Uuid) (db : Database) (objects : List String) :
    (publishSteps replies topicId contentId now generationId db objects).1 =
        (exec (publishInner replies topicId contentId now generationId) { db, tx := db, objects }).1 ∧
      (publishSteps replies topicId contentId now generationId db objects).2.db =
        (exec (publishInner replies topicId contentId now generationId)
          { db, tx := db, objects }).2.db := by
  unfold publishSteps
  rcases exec (publishInner replies topicId contentId now generationId) { db, tx := db, objects } with
    ⟨r, s⟩
  cases r <;> exact ⟨rfl, rfl⟩

/-- Statement by statement, a publication answers and commits what the one step of
the pipeline does. -/
theorem publishSteps_eq_exec (hok : replies.StatementsSucceed) {db : Database}
    (hnd : (db.rows.map MediaGeneration.id).Nodup) (generationId : Uuid) (objects : List String) :
    (Query.onRow generationId (.publish topicId contentId)).exec now replies.toPublicationReplies db =
      (.ok (publishSteps replies topicId contentId now generationId db objects).1,
        (publishSteps replies topicId contentId now generationId db objects).2.db) := by
  rw [(publishSteps_eq generationId db objects).1, (publishSteps_eq generationId db objects).2]
  unfold publishInner
  rw [hok.beginTx, hok.lockRow]
  show _ = (Except.ok (exec (match db.row generationId with
    | some g => publishLocked replies topicId contentId now g
    | none => throw (.notFound generationId)) { db, tx := db, objects }).1,
    (exec (match db.row generationId with
    | some g => publishLocked replies topicId contentId now g
    | none => throw (.notFound generationId)) { db, tx := db, objects }).2.db)
  cases hrow : db.row generationId with
  | none =>
    simp only [Query.exec, hrow]
    rfl
  | some g =>
    have hid : g.id = generationId := Table.find_key hrow
    subst hid
    obtain ⟨s', hexec, hdb⟩ := @exec_publishLocked replies topicId contentId now hok g
      { db, tx := db, objects } rfl hnd hrow
    show _ = (Except.ok (exec (publishLocked replies topicId contentId now g) _).1,
      (exec (publishLocked replies topicId contentId now g) _).2.db)
    rw [hexec, hdb]
    simp only [Query.exec, hrow]
    -- the update of the one step looks at `g` only
    have hmodify (f : MediaGeneration → MediaGeneration) :
        db.modifyRow g.id f = db.modifyRow g.id fun _ => f g := by
      unfold Database.modifyRow
      rw [Table.modify_congr (g := fun _ => f g) hnd hrow rfl]
    have hself : db.modifyRow g.id (fun _ => g) = db := by
      unfold Database.modifyRow
      rw [Table.modify_eq_self hnd hrow rfl]
    rw [hmodify]
    simp only [RowStatement.answer, RowStatement.row, RowStatement.publication]
    cases publishRow replies.toPublicationReplies topicId contentId db.nextProjectId now g with
    | error e =>
      simp only [Option.map_none, Option.getD_none, hself]
      rfl
    | ok pub =>
      cases pub with
      | none =>
        simp only [Option.map_none, Option.getD_none, hself]
        rfl
      | some pub => rfl

end Refinement

end KlassGateway.MediaGen
