import KlassGateway.MediaGen.Publication
/-!
# Thumbnails of a publication

`resolve_thumbnail` puts a picture of the renderer into the folder of the learning
materials, as an SVG file, and this folder takes no SVG.

* `publishRow_isOk_iff`: where the file passes its checks and every other call
  succeeds, a row is published exactly when it is closed already, or the media type
  in its row, if any, is one of the folder and no picture of the renderer arrives.
* `thumbnail_fails_publication`: a PDF file with a picture beside it.
-/

namespace KlassGateway.MediaGen

open Lib Db Storage

/-! ## Uploads -/

/-- The category takes files of this media type. -/
def Accepts (cat : UploadCategory) (contentType : String) : Prop :=
  ∃ ext, mimeToExtension contentType = some ext ∧ ext ∈ cat.allowedExtensions

/-- An upload succeeds if the file is small enough, its type is accepted, and the
put succeeds. -/
theorem upload_isOk_iff {publicUrl category contentType : String} {bytes : List UInt8}
    {put : PutReply} {cat : UploadCategory}
    (hcat : uploadCategories.find? (fun c => c.name == category) = some cat) :
    (upload publicUrl category bytes contentType put).isOk ↔
      bytes.length ≤ cat.maxSizeKb * 1024 ∧ Accepts cat contentType ∧ put.result.isOk := by
  unfold upload Accepts
  rw [hcat]
  dsimp only
  split
  · next hlarge =>
    constructor
    · intro h
      cases h
    · intro h
      omega
  · next hsmall =>
    have hsize : bytes.length ≤ cat.maxSizeKb * 1024 := by omega
    cases hext : mimeToExtension contentType with
    | none => simp [Except.isOk, Except.toBool]
    | some ext =>
      dsimp only
      split
      · next hout => simp [hout, Except.isOk, Except.toBool]
      · next hin =>
        have hmem : ext ∈ cat.allowedExtensions := Decidable.not_not.1 hin
        cases put.result with
        | error e => simp [Except.isOk, Except.toBool]
        | ok u => simp [hsize, hmem, Except.isOk, Except.toBool]

/-- The folder of the learning materials. -/
def materials : UploadCategory where
  name := "materials"
  path := "materials"
  allowedExtensions := ["pdf", "doc", "docx", "ppt", "pptx", "xls", "xlsx", "txt", "md"]
  maxSizeKb := 10240

theorem find_materials :
    uploadCategories.find? (fun c => c.name == "materials") = some materials := rfl

theorem find_gallery :
    uploadCategories.find? (fun c => c.name == "gallery") = uploadCategories[1]? := rfl

/-- The category `materials` takes no SVG. -/
theorem not_accepts_svg : ¬ Accepts materials svgMime := by
  rintro ⟨ext, hext, hmem⟩
  have hsvg : ext = "svg" := (Option.some.inj (hext.symm.trans (rfl : mimeToExtension svgMime = _)))
  subst hsvg
  exact absurd hmem (by decide)

/-! ## The picture of the renderer -/

/-- The picture that the response of the renderer names. -/
def rendererThumbnail (response : Json) : Option String :=
  (((response.get "thumbnail_url").or
    (response.pointer ["response", "thumbnail_url"])).bind Json.asStr).filter (· ≠ "")

/-- The response names a picture, and the download brings one. -/
def ThumbnailArrives (response : Json) (replies : PublicationReplies) : Prop :=
  (rendererThumbnail response).isSome ∧ ∃ status bytes,
    replies.thumbnail = .ok (status, bytes) ∧ (200 ≤ status ∧ status < 300) ∧ bytes ≠ []

/-- The fallback picture is stored. -/
theorem gallery_ok (publicUrl : String) {put : PutReply} (hput : put.result.isOk) :
    ∃ stored, upload publicUrl "gallery" [0] svgMime put = .ok stored := by
  have hok : (upload publicUrl "gallery" [0] svgMime put).isOk := by
    rw [upload_isOk_iff find_gallery]
    exact ⟨by decide, ⟨"svg", rfl, by decide⟩, hput⟩
  cases hres : upload publicUrl "gallery" [0] svgMime put with
  | ok stored => exact ⟨stored, rfl⟩
  | error e =>
    rw [hres] at hok
    cases hok

/-- The picture of the renderer is not. -/
theorem materials_svg_error (publicUrl : String) (bytes : List UInt8) (put : PutReply) :
    ∃ e, upload publicUrl "materials" bytes svgMime put = .error e := by
  cases hres : upload publicUrl "materials" bytes svgMime put with
  | error e => exact ⟨e, rfl⟩
  | ok stored =>
    have hok : (upload publicUrl "materials" bytes svgMime put).isOk := by
      rw [hres]
      rfl
    exact absurd ((upload_isOk_iff find_materials).1 hok).2.1 not_accepts_svg

/-- A thumbnail is resolved unless a picture of the renderer arrives. -/
theorem resolveThumbnail_isOk_iff {response : Json} {replies : PublicationReplies}
    (hput : replies.putThumbnail.result.isOk) :
    (resolveThumbnail response replies).isOk ↔ ¬ ThumbnailArrives response replies := by
  obtain ⟨stored, hstored⟩ := gallery_ok replies.r2PublicUrl hput
  unfold resolveThumbnail ThumbnailArrives
  dsimp only
  cases hurl : rendererThumbnail response with
  | none =>
    unfold rendererThumbnail at hurl
    rw [hurl]
    simp [hstored, Except.isOk, Except.toBool]
  | some url =>
    unfold rendererThumbnail at hurl
    rw [hurl]
    cases hreply : replies.thumbnail with
    | error e => simp [hstored, Except.isOk, Except.toBool]
    | ok reply =>
      obtain ⟨status, bytes⟩ := reply
      cases bytes with
      | nil => simp [hstored, Except.isOk, Except.toBool]
      | cons b bs =>
        by_cases hstatus : 200 ≤ status ∧ status < 300
        · obtain ⟨e, he⟩ := materials_svg_error replies.r2PublicUrl (b :: bs) replies.putThumbnail
          simp [hstatus, he, Except.isOk, Except.toBool]
        · simp [hstatus, hstored, Except.isOk, Except.toBool]

/-! ## Publications -/

/-- The output types that the pipeline renders. -/
def renderedTypes : List String := ["pdf", "docx", "pptx"]

/-- The default media type of a rendered output is one of the learning materials. -/
theorem accepts_default {outputType : String} (h : outputType ∈ renderedTypes) :
    Accepts materials (defaultMimeFor outputType) := by
  simp only [renderedTypes, List.mem_cons, List.not_mem_nil, or_false] at h
  rcases h with rfl | rfl | rfl
  · exact ⟨"pdf", rfl, by decide⟩
  · exact ⟨"docx", rfl, by decide⟩
  · exact ⟨"pptx", rfl, by decide⟩

/-- What a publication is given when only its thumbnail is in doubt: the row has a
rendered type and a response with a place of the artifact, the artifact is
downloaded, passes the integrity check and is not too large, and the storage
takes every put. -/
structure ArtifactReady (g : MediaGeneration) (response : Json) (mimeType : String)
    (replies : PublicationReplies) (url : String) (status : Nat) (bytes : List UInt8) : Prop where
  rendered : ∃ outputType ∈ renderedTypes, g.resolvedOutputType = some outputType ∧
    mimeType = g.mimeType.getD (defaultMimeFor outputType)
  answered : g.generatorServiceResponse = some response
  located : artifactUrl response replies = .ok url
  downloaded : replies.artifact = .ok (status, bytes)
  success : 200 ≤ status ∧ status < 300
  intact : validateIntegrity bytes mimeType = .ok ()
  size : bytes.length ≤ materials.maxSizeKb * 1024
  putThumbnail : replies.putThumbnail.result.isOk
  putArtifact : replies.putArtifact.result.isOk

/-- With everything else in place, an open row is published exactly when its media
type is one of the learning materials and no picture of the renderer arrives. -/
theorem publishRow_isOk_iff {g : MediaGeneration} {response : Json} {mimeType url : String}
    {replies : PublicationReplies} {status : Nat} {bytes : List UInt8} {topicId contentId : Uuid}
    {projectId : Int} {now : DateTime}
    (h : ArtifactReady g response mimeType replies url status bytes) :
    (publishRow replies topicId contentId projectId now g).isOk ↔
      (g.status = .completed ∨ g.status = .cancelled) ∨
        ((∀ m, g.mimeType = some m → Accepts materials m) ∧
          ¬ ThumbnailArrives response replies) := by
  obtain ⟨outputType, hrendered, htype, hmime⟩ := h.rendered
  have hbytes : downloadArtifact replies.artifact = .ok bytes := by
    unfold downloadArtifact
    rw [h.downloaded]
    exact if_pos h.success
  have hintact := h.intact
  have hmedia : Accepts materials mimeType ↔ ∀ m, g.mimeType = some m → Accepts materials m := by
    rw [hmime]
    cases g.mimeType with
    | none => simp [accepts_default hrendered]
    | some m => simp
  have hthumb : (resolveThumbnail response replies).isOk ↔ ¬ ThumbnailArrives response replies :=
    resolveThumbnail_isOk_iff h.putThumbnail
  have hupload : (upload replies.r2PublicUrl "materials" bytes mimeType replies.putArtifact).isOk ↔
      bytes.length ≤ materials.maxSizeKb * 1024 ∧ Accepts materials mimeType ∧
        replies.putArtifact.result.isOk := upload_isOk_iff find_materials
  by_cases hclosed : g.status = .completed ∨ g.status = .cancelled
  · simp [publishRow, hclosed, Except.isOk, Except.toBool]
  · have hsteps : (publishRow replies topicId contentId projectId now g).isOk ↔
        (resolveThumbnail response replies).isOk ∧
          (upload replies.r2PublicUrl "materials" bytes mimeType replies.putArtifact).isOk := by
      rw [publishRow, if_neg hclosed, htype, h.answered]
      simp only [Option.getD_some, ← hmime, okOr, isOk_bind, h.located, hbytes, hintact,
        Except.ok.injEq, exists_eq_left', mapError_eq_ok]
      simp only [isOk_iff, pure, Except.pure, Except.ok.injEq, exists_eq', and_true, true_and,
        exists_const, exists_and_right]
    rw [hsteps, hthumb, hupload, hmedia]
    have hsize := h.size
    have hput := h.putArtifact
    tauto

/-- A rendered PDF file. -/
def samplePdf : List UInt8 := asciiBytes "%PDF-1.7 %%EOF"

/-- The rendered file passes the integrity check. -/
theorem validateIntegrity_samplePdf : validateIntegrity samplePdf "application/pdf" = .ok () := by
  have hfull : samplePdf.isEmpty = false := by decide
  have hpdf : Text.contains "application/pdf" "pdf" := by decide +kernel
  have hheader : (asciiBytes "%PDF").isPrefixOf samplePdf := by decide +kernel
  have htrailer : hasPdfEofMarker samplePdf := by decide +kernel
  simp [validateIntegrity, hfull, hpdf, hheader, htrailer]

/-- The answer of the renderer for it, with the given picture. -/
def sampleAnswer (thumbnail : Json) : Json :=
  .obj [("file_url", "https://renderer/file.pdf"), ("thumbnail_url", thumbnail)]

/-- An open generation that waits for its publication. -/
def sampleGeneration (answer : Json) : MediaGeneration where
  id := ⟨0⟩
  teacherId := 1
  rawPrompt := "photosynthesis"
  requestFingerprint := ""
  resolvedOutputType := some "pdf"
  status := .publishing
  generatorServiceResponse := some answer

/-- The file and a picture are there. -/
def sampleReplies : PublicationReplies where
  artifact := .ok (200, samplePdf)
  thumbnail := .ok (200, asciiBytes "<svg/>")

/-- Nothing but the thumbnail is in doubt. -/
theorem artifactReady_sample {thumbnail : Json} :
    ArtifactReady (sampleGeneration (sampleAnswer thumbnail)) (sampleAnswer thumbnail)
      "application/pdf" sampleReplies "https://renderer/file.pdf" 200 samplePdf where
  rendered := ⟨"pdf", by decide, rfl, rfl⟩
  answered := rfl
  located := rfl
  downloaded := rfl
  success := by decide
  intact := validateIntegrity_samplePdf
  size := by decide +kernel
  putThumbnail := rfl
  putArtifact := rfl

/-- Without a picture the file is published. -/
theorem publishRow_isOk_sample :
    (publishRow sampleReplies ⟨1⟩ ⟨2⟩ 3 4 (sampleGeneration (sampleAnswer .null))).isOk :=
  (publishRow_isOk_iff artifactReady_sample).2 (.inr ⟨by simp [sampleGeneration], by
    rintro ⟨hsome, _⟩
    exact absurd hsome (by decide)⟩)

/-- With one it is not, although everything else is in place. -/
theorem thumbnail_fails_publication :
    ArtifactReady (sampleGeneration (sampleAnswer (.str "https://renderer/picture.svg")))
        (sampleAnswer (.str "https://renderer/picture.svg")) "application/pdf" sampleReplies
        "https://renderer/file.pdf" 200 samplePdf ∧
      (publishRow sampleReplies ⟨1⟩ ⟨2⟩ 3 4
        (sampleGeneration (sampleAnswer (.str "https://renderer/picture.svg")))).isOk = false :=
  ⟨artifactReady_sample, by decide +kernel⟩

end KlassGateway.MediaGen
