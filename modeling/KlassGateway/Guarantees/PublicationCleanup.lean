import KlassGateway.MediaGen.PublishSteps
/-!
# What a failed publication leaves behind

`publish` deletes the uploads that it has noted when a step fails.  The
artifact is noted, the thumbnail that is put before it is not.

* `publish_clean_iff`: a publication that fails, and whose deletes
  succeed, leaves the database and the bucket clean exactly when no thumbnail
  was stored.
-/

namespace KlassGateway.MediaGen

open Lib Db Storage

/-! ## Keys -/

/-- The key of an object in a category, if its size and its type are accepted. -/
theorem uploadKey_of_category {category contentType filename : String} {bytes : List UInt8}
    {cat : UploadCategory} (hcat : uploadCategories.find? (fun c => c.name == category) = some cat) :
    uploadKey category bytes contentType filename =
      if cat.maxSizeKb * 1024 < bytes.length then none
      else (mimeToExtension contentType).bind fun ext =>
        if ext ∉ cat.allowedExtensions then none
        else some (cat.path ++ "/" ++ filename ++ "." ++ ext) := by
  unfold uploadKey upload
  rw [hcat]
  dsimp only
  split
  · rfl
  · cases mimeToExtension contentType with
    | none => rfl
    | some ext =>
      rw [Option.bind_some]
      dsimp only
      split <;> rfl

/-- An object is put into the folder of its category. -/
theorem uploadKey_folder {category contentType filename key : String} {bytes : List UInt8}
    {cat : UploadCategory} (hcat : uploadCategories.find? (fun c => c.name == category) = some cat)
    (hkey : uploadKey category bytes contentType filename = some key) :
    ∃ rest, key = cat.path ++ "/" ++ rest := by
  rw [uploadKey_of_category hcat] at hkey
  split at hkey
  · cases hkey
  · obtain ⟨ext, _, hext⟩ := Option.bind_eq_some_iff.1 hkey
    split at hext
    · cases hext
    · obtain rfl := Option.some.inj hext
      exact ⟨filename ++ "." ++ ext, by simp only [String.append_assoc]⟩

/-- The folder of learning materials takes no SVG. -/
theorem uploadKey_materials_svg {bytes : List UInt8} {filename : String} :
    uploadKey "materials" bytes svgMime filename = none := by
  have hcat : uploadCategories.find? (fun c => c.name == "materials") = uploadCategories[2]? := rfl
  rw [uploadKey_of_category hcat]
  split
  · rfl
  · rfl

/-- A picture in the gallery is no learning material. -/
theorem gallery_ne_materials {t₁ t₂ f₁ f₂ key path : String} {b₁ b₂ : List UInt8}
    (hkey : uploadKey "gallery" b₁ t₁ f₁ = some key)
    (hpath : uploadKey "materials" b₂ t₂ f₂ = some path) : path ≠ key := by
  have hgallery : uploadCategories.find? (fun c => c.name == "gallery") = uploadCategories[1]? := rfl
  have hmaterials : uploadCategories.find? (fun c => c.name == "materials") = uploadCategories[2]? :=
    rfl
  obtain ⟨r₁, rfl⟩ := uploadKey_folder hgallery hkey
  obtain ⟨r₂, rfl⟩ := uploadKey_folder hmaterials hpath
  intro he
  have hlists := congrArg String.toList he
  simp only [String.toList_append] at hlists
  have hhead : some 'm' = some 'g' := congrArg List.head? hlists
  exact absurd hhead (by decide)

/-! ## Thumbnails -/

/-- The key that the thumbnail of a row is stored under, if the steps before it go
through and its put stores it. -/
def storedThumbnail (replies : PublishReplies) (g : MediaGeneration) : Option String :=
  match fetchArtifact replies g with
  | .error _ => none
  | .ok (response, _) =>
    match thumbnailPicture response replies with
    | .error _ => none
    | .ok (category, bytes, mimeType) =>
      if replies.putThumbnail.result.isOk || replies.thumbnailStored then
        uploadKey category bytes mimeType replies.putThumbnail.filename
      else none

/-- The publication comes as far as the thumbnail, and its put stores it. -/
def StoresThumbnail (replies : PublishReplies) (db : Database) (generationId : Uuid) : Prop :=
  replies.beginTx = .ok () ∧ replies.lockRow = .ok () ∧
    ∃ g, db.row generationId = some g ∧ ¬ (g.status = .completed ∨ g.status = .cancelled) ∧
      (storedThumbnail replies g).isSome

/-- The database is as before, and what was put into the bucket is deleted. -/
def Clean (db : Database) (s : PublishState) : Prop :=
  s.db = db ∧ ∀ key ∈ s.stored, key ∉ s.objects

/-- A picture is for the gallery, or it is the renderer's SVG. -/
theorem thumbnailPicture_cases {response : Json} {replies : PublishReplies} {category mimeType : String}
    {bytes : List UInt8} (h : thumbnailPicture response replies = .ok (category, bytes, mimeType)) :
    category = "gallery" ∨ (category = "materials" ∧ mimeType = svgMime) := by
  have hfallback (h : replies.generated.map (fun picture => ("gallery", picture)) =
      .ok (category, bytes, mimeType)) : category = "gallery" := by
    cases hgenerated : replies.generated with
    | error e =>
      rw [hgenerated] at h
      cases h
    | ok picture =>
      rw [hgenerated] at h
      cases h
      rfl
  unfold thumbnailPicture at h
  dsimp only at h
  split at h
  · split at h
    · cases h
      exact .inr ⟨rfl, rfl⟩
    · exact .inl (hfallback h)
  · exact .inl (hfallback h)

section Thumbnail

variable {replies : PublishReplies} {g : MediaGeneration} {response : Json} {bytes : List UInt8}
  {s : PublishState}

/-- Where no thumbnail is stored, the publication ends there with an error. -/
theorem exec_putThumbnail_of_none (hfetch : fetchArtifact replies g = .ok (response, bytes))
    (hnone : storedThumbnail replies g = none) :
    ∃ e, exec (putThumbnail response replies) s = (.error e, s) := by
  unfold storedThumbnail at hnone
  rw [hfetch] at hnone
  dsimp only at hnone
  unfold putThumbnail
  rw [exec_bind, exec_lift]
  cases hpicture : thumbnailPicture response replies with
  | error e => exact ⟨e, rfl⟩
  | ok picture =>
    obtain ⟨category, picture, mimeType⟩ := picture
    rw [hpicture] at hnone
    show ∃ e, exec (putObject _ category picture mimeType _ _ >>= _) s = _
    rw [exec_bind]
    cases hkey : uploadKey category picture mimeType replies.putThumbnail.filename with
    | none =>
      obtain ⟨e, hput⟩ := @exec_putObject_of_none replies.r2PublicUrl category mimeType picture
        replies.putThumbnail replies.thumbnailStored s hkey
      rw [hput]
      exact ⟨e, rfl⟩
    | some key =>
      rw [exec_putObject_of_some hkey]
      simp only [hkey, ite_eq_right_iff, reduceCtorEq, imp_false, Bool.or_eq_true, not_or,
        Bool.not_eq_true] at hnone
      cases hresult : replies.putThumbnail.result with
      | ok _ =>
        rw [hresult] at hnone
        cases hnone.1
      | error e =>
        rw [hnone.2]
        exact ⟨_, rfl⟩

/-- The object of this call under the key is in the bucket, and no deletion is
noted for it. -/
def Unnoted (key : String) (s : PublishState) : Prop :=
  key ∈ s.objects ∧ key ∈ s.stored ∧ ∀ path ∈ s.uploadedPaths, path ≠ key

/-- A thumbnail that is stored is not noted. -/
theorem exec_putThumbnail_of_some {key : String}
    (hfetch : fetchArtifact replies g = .ok (response, bytes))
    (hkey : storedThumbnail replies g = some key) (hpaths : s.uploadedPaths = []) :
    Unnoted key (exec (putThumbnail response replies) s).2 ∧
      ∀ b t f path, uploadKey "materials" b t f = some path → path ≠ key := by
  unfold storedThumbnail at hkey
  rw [hfetch] at hkey
  dsimp only at hkey
  unfold putThumbnail
  rw [exec_bind, exec_lift]
  cases hpicture : thumbnailPicture response replies with
  | error e =>
    rw [hpicture] at hkey
    cases hkey
  | ok picture =>
    obtain ⟨category, picture, mimeType⟩ := picture
    rw [hpicture] at hkey
    simp only [Bool.or_eq_true, Option.ite_none_right_eq_some] at hkey
    obtain ⟨hstored, hkey⟩ := hkey
    have hgallery : category = "gallery" := by
      rcases thumbnailPicture_cases hpicture with hc | ⟨hc, hm⟩
      · exact hc
      · rw [hc, hm, uploadKey_materials_svg] at hkey
        cases hkey
    subst hgallery
    refine ⟨?_, fun b t f path hpath => gallery_ne_materials hkey hpath⟩
    show Unnoted key (exec (putObject _ "gallery" picture mimeType _ _ >>= _) s).2
    have hafter : Unnoted key (store (some key) s) := by
      refine ⟨List.mem_cons_self .., List.mem_cons_self .., fun path hpath => ?_⟩
      rw [show (store (some key) s).uploadedPaths = [] from hpaths] at hpath
      cases hpath
    rw [exec_bind, exec_putObject_of_some hkey]
    cases hresult : replies.putThumbnail.result with
    | ok _ => exact hafter
    | error e =>
      rw [hresult] at hstored
      rcases hstored with hok | hanyway
      · cases hok
      · rw [hanyway]
        exact hafter

end Thumbnail

/-! ## The rest of the publication -/

theorem Unnoted.sameBucket {key : String} {s s' : PublishState} (h : Unnoted key s)
    (hsame : SameBucket s s') : Unnoted key s' := by
  obtain ⟨hobjects, hstored, hpaths⟩ := hsame
  unfold Unnoted
  rw [hobjects, hstored, hpaths]
  exact h

theorem Unnoted.store {key path : String} {s : PublishState} (h : Unnoted key s) :
    Unnoted key (store (some path) s) :=
  ⟨List.mem_cons_of_mem _ h.1, List.mem_cons_of_mem _ h.2.1, h.2.2⟩

section Rest

variable {replies : PublishReplies} {topicId contentId : Uuid} {now : DateTime}
  {g : MediaGeneration} {outputType mimeType : String} {response : Json} {bytes : List UInt8}
  {s : PublishState}

/-- Where no thumbnail is stored, nothing is stored at all. -/
theorem exec_uploadAndCommit_of_none (hfetch : fetchArtifact replies g = .ok (response, bytes))
    (hnone : storedThumbnail replies g = none) :
    ∃ e, exec (uploadAndCommit replies topicId contentId now g outputType mimeType response bytes) s =
      (.error e, s) := by
  obtain ⟨e, hthumbnail⟩ := @exec_putThumbnail_of_none replies g response bytes s hfetch hnone
  refine ⟨e, ?_⟩
  unfold uploadAndCommit
  rw [exec_bind, hthumbnail]

/-- A stored thumbnail stays where it is, whatever the later steps do. -/
theorem exec_uploadAndCommit_of_some {key : String}
    (hfetch : fetchArtifact replies g = .ok (response, bytes))
    (hkey : storedThumbnail replies g = some key) (hpaths : s.uploadedPaths = []) :
    Unnoted key (exec (uploadAndCommit replies topicId contentId now g outputType mimeType response
      bytes) s).2 := by
  obtain ⟨hafter, hother⟩ := exec_putThumbnail_of_some hfetch hkey hpaths
  unfold uploadAndCommit
  rw [exec_bind]
  rcases hexec : exec (putThumbnail response replies) s with ⟨r, s₁⟩
  rw [hexec] at hafter
  cases r with
  | error e => exact hafter
  | ok thumbnailUrl =>
    show Unnoted key (exec (putObject _ "materials" bytes mimeType _ _ >>= _) s₁).2
    rw [exec_bind]
    cases hpath : uploadKey "materials" bytes mimeType replies.putArtifact.filename with
    | none =>
      obtain ⟨e, hput⟩ := @exec_putObject_of_none replies.r2PublicUrl "materials" mimeType bytes
        replies.putArtifact replies.artifactStored s₁ hpath
      rw [hput]
      exact hafter
    | some path =>
      rw [exec_putObject_of_some hpath]
      cases replies.putArtifact.result with
      | error e =>
        show Unnoted key (if replies.artifactStored = true then store (some path) s₁ else s₁)
        split
        · exact hafter.store
        · exact hafter
      | ok _ =>
        have hnoted : Unnoted key { store (some path) s₁ with
            uploadedPaths := s₁.uploadedPaths ++ [path] } := by
          refine ⟨hafter.store.1, hafter.store.2.1, fun p hp => ?_⟩
          rcases List.mem_append.1 hp with hp | hp
          · exact hafter.2.2 p hp
          · rw [List.mem_singleton.1 hp]
            exact hother _ _ _ _ hpath
        exact hnoted.sameBucket (onDatabase_commitPublication _ _ _ _ _ _ _ _ _ _ _)

/-- A row that is completed or cancelled is left alone. -/
theorem exec_publishLocked_of_closed (hclosed : g.status = .completed ∨ g.status = .cancelled)
    (htx : s.tx = s.db) :
    (exec (publishLocked replies topicId contentId now g) s).2 = s := by
  unfold publishLocked
  rw [if_pos hclosed]
  have hsame : { s with db := s.tx } = s := by
    rcases s with ⟨db, tx, objects, paths, stored⟩
    obtain rfl : tx = db := htx
    rfl
  match replies.commit with
  | .done => exact hsame
  | .failed e true => exact hsame
  | .failed e false => rfl

/-- Without a stored thumbnail, a publication of an open row changes nothing. -/
theorem exec_publishLocked_of_none
    (hopen : ¬ (g.status = .completed ∨ g.status = .cancelled))
    (hnone : storedThumbnail replies g = none) :
    (exec (publishLocked replies topicId contentId now g) s).2 = s := by
  unfold publishLocked
  rw [if_neg hopen, exec_bind, exec_lift]
  cases hfetch : fetchArtifact replies g with
  | error e => rfl
  | ok fetched =>
    obtain ⟨response, bytes⟩ := fetched
    obtain ⟨e, hexec⟩ := @exec_uploadAndCommit_of_none replies topicId contentId now g
      (mediaTypes g).1 (mediaTypes g).2 response bytes s hfetch hnone
    show (exec (uploadAndCommit replies topicId contentId now g _ _ response bytes) s).2 = s
    rw [hexec]

/-- A stored thumbnail is not noted at the end. -/
theorem exec_publishLocked_of_some {key : String}
    (hopen : ¬ (g.status = .completed ∨ g.status = .cancelled))
    (hkey : storedThumbnail replies g = some key) (hpaths : s.uploadedPaths = []) :
    Unnoted key (exec (publishLocked replies topicId contentId now g) s).2 := by
  unfold publishLocked
  rw [if_neg hopen, exec_bind, exec_lift]
  cases hfetch : fetchArtifact replies g with
  | error e =>
    rw [storedThumbnail, hfetch] at hkey
    cases hkey
  | ok fetched => exact exec_uploadAndCommit_of_some hfetch hkey hpaths

variable {db : Database} {objects : List String} {generationId : Uuid}

theorem exec_statement_ok (u : Unit) (f : Database → Database) (s : PublishState) :
    exec (statement (.ok u) f) s = (.ok (), { s with tx := f s.tx }) := rfl

/-- The row is read in the transaction. -/
theorem exec_publishInner :
    exec (publishInner replies topicId contentId now generationId) { db, tx := db, objects } =
      match replies.beginTx, replies.lockRow, db.row generationId with
      | .error e, _, _ => (.error (.database e), { db, tx := db, objects })
      | .ok (), .error e, _ => (.error (.database e), { db, tx := db, objects })
      | .ok (), .ok (), none => (.error (.notFound generationId), { db, tx := db, objects })
      | .ok (), .ok (), some g =>
        exec (publishLocked replies topicId contentId now g) { db, tx := db, objects } := by
  unfold publishInner
  cases replies.beginTx with
  | error e => rfl
  | ok _ =>
    cases replies.lockRow with
    | error e => rfl
    | ok _ =>
      cases hrow : db.row generationId with
      | none => simp only [exec_bind, exec_statement_ok, exec_get, hrow, exec_throw, id]
      | some g => simp only [exec_bind, exec_statement_ok, exec_get, hrow, id]

/-- Either the publication stores a thumbnail, which is not noted, or it changes
nothing, apart from what a completed publication commits. -/
theorem publishInner_cases :
    (StoresThumbnail replies db generationId ∧ ∃ key, Unnoted key
      (exec (publishInner replies topicId contentId now generationId) { db, tx := db, objects }).2) ∨
    (¬ StoresThumbnail replies db generationId ∧
      (exec (publishInner replies topicId contentId now generationId) { db, tx := db, objects }).2 =
        { db, tx := db, objects }) := by
  rw [exec_publishInner]
  unfold StoresThumbnail
  cases replies.beginTx with
  | error e => exact .inr ⟨by simp, rfl⟩
  | ok _ =>
    cases replies.lockRow with
    | error e => exact .inr ⟨by simp, rfl⟩
    | ok _ =>
      cases hrow : db.row generationId with
      | none => exact .inr ⟨by simp, rfl⟩
      | some g =>
        by_cases hclosed : g.status = .completed ∨ g.status = .cancelled
        · exact .inr ⟨by simp; tauto, exec_publishLocked_of_closed hclosed rfl⟩
        · cases hkey : storedThumbnail replies g with
          | none => exact .inr ⟨by simp [hkey], exec_publishLocked_of_none hclosed hkey⟩
          | some key =>
            refine .inl ⟨⟨rfl, rfl, g, rfl, hclosed, by simp [hkey]⟩, key, ?_⟩
            exact exec_publishLocked_of_some hclosed hkey rfl

end Rest

/-- A publication that fails is cleaned up exactly when it has stored no
thumbnail, also when all deletes succeed. -/
theorem publish_clean_iff (replies : PublishReplies) (topicId contentId : Uuid) (now : DateTime)
    (generationId : Uuid) (db : Database) (objects : List String) (e : PublicationError)
    (h : (publishSteps replies topicId contentId now generationId db objects).1 = .error e) :
    Clean db (publishSteps replies topicId contentId now generationId db objects).2 ↔
      ¬ StoresThumbnail replies db generationId := by
  have hcases := @publishInner_cases replies topicId contentId now db objects generationId
  unfold publishSteps at h ⊢
  rcases hexec : exec (publishInner replies topicId contentId now generationId)
    { db, tx := db, objects } with ⟨r, s⟩
  rw [hexec] at hcases h
  cases r with
  | ok result => cases h
  | error e' =>
    rcases hcases with ⟨hstores, key, hobject, hstored, hnoted⟩ | ⟨hnone, hsame⟩
    · refine iff_of_false (fun hclean => ?_) fun hnone => hnone hstores
      have hkept : key ∉ s.uploadedPaths := fun hmem => hnoted key hmem rfl
      apply hclean.2 key hstored
      show key ∈ s.objects.filter _
      rw [List.mem_filter]
      exact ⟨hobject, by simp [hkept]⟩
    · refine iff_of_true ?_ hnone
      obtain rfl : s = { db, tx := db, objects } := hsame
      exact ⟨rfl, fun key hk => by cases hk⟩

/-- A row whose artifact is ready. -/
def readyRow : MediaGeneration :=
  { id := ⟨1⟩
    teacherId := 7
    rawPrompt := "fotosintesis"
    requestFingerprint := ""
    status := .publishing
    generatorServiceResponse := some (.obj [("presigned_url", "https://transit/1.pdf")]) }

/-- A PDF file. -/
def pdfBytes : List UInt8 := asciiBytes "%PDF-1.7 %%EOF"

/-- An artifact that is gone leaves nothing behind. -/
theorem publish_clean_sample :
    Clean { rows := [readyRow] }
      (publishSteps { artifact := .ok (404, []) } ⟨2⟩ ⟨3⟩ 0 ⟨1⟩ { rows := [readyRow] } []).2 := by
  refine (publish_clean_iff { artifact := .ok (404, []) } ⟨2⟩ ⟨3⟩ 0 ⟨1⟩ { rows := [readyRow] } [] _
    rfl).2 ?_
  rintro ⟨_, _, g, hrow, _, hstored⟩
  obtain rfl : readyRow = g := Option.some.inj hrow
  cases hstored

/-- Both uploads succeed, and the `INSERT` of the topic fails. -/
def topicFails : PublishReplies :=
  { artifact := .ok (200, pdfBytes)
    insertTopic := .error (.other "connection reset") }

/-- The artifact is deleted and the thumbnail stays. -/
theorem publish_leaves_thumbnail :
    (∃ e, (publishSteps topicFails ⟨2⟩ ⟨3⟩ 0 ⟨1⟩ { rows := [readyRow] } []).1 = .error e) ∧
      (∀ path, topicFails.deletes path = true) ∧
      ¬ Clean { rows := [readyRow] }
        (publishSteps topicFails ⟨2⟩ ⟨3⟩ 0 ⟨1⟩ { rows := [readyRow] } []).2 := by
  have hfails : (publishSteps topicFails ⟨2⟩ ⟨3⟩ 0 ⟨1⟩ { rows := [readyRow] } []).1.isOk = false := by
    decide +kernel
  have hstored : "gallery/file.svg" ∈
      (publishSteps topicFails ⟨2⟩ ⟨3⟩ 0 ⟨1⟩ { rows := [readyRow] } []).2.stored := by
    decide +kernel
  have hobject : "gallery/file.svg" ∈
      (publishSteps topicFails ⟨2⟩ ⟨3⟩ 0 ⟨1⟩ { rows := [readyRow] } []).2.objects := by
    decide +kernel
  refine ⟨?_, fun _ => rfl, fun hclean => hclean.2 _ hstored hobject⟩
  cases hresult : (publishSteps topicFails ⟨2⟩ ⟨3⟩ 0 ⟨1⟩ { rows := [readyRow] } []).1 with
  | ok result =>
    rw [hresult] at hfails
    cases hfails
  | error e => exact ⟨e, rfl⟩

end KlassGateway.MediaGen
