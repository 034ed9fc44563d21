import KlassGateway.Lib.Text
/-!
# Object storage uploads

Model of `upload` in `storage/r2.rs`: the category table and the checks before
the object is put.  The put itself is answered by the storage service, so its
result is an argument, as is the random file name.

`extractObjectKey_generatePublicUrl` says that `extract_object_key` reads back the key of a
public url.
-/

namespace KlassGateway.Storage

open Lib

/-- `UploadCategory`. -/
structure UploadCategory where
  name : String
  path : String
  allowedExtensions : List String
  maxSizeKb : Nat

/-- `UPLOAD_CATEGORIES`. -/
def uploadCategories : List UploadCategory :=
  [{ name := "avatars"
     path := "avatars"
     allowedExtensions := ["jpg", "jpeg", "png", "webp"]
     maxSizeKb := 2048 },
   { name := "gallery"
     path := "gallery"
     allowedExtensions := ["jpg", "jpeg", "png", "webp", "gif", "svg"]
     maxSizeKb := 5120 },
   { name := "materials"
     path := "materials"
     allowedExtensions := ["pdf", "doc", "docx", "ppt", "pptx", "xls", "xlsx", "txt", "md"]
     maxSizeKb := 10240 },
   { name := "attachments"
     path := "attachments"
     allowedExtensions := ["jpg", "jpeg", "png", "webp", "gif", "pdf", "doc", "docx", "zip"]
     maxSizeKb := 10240 }]

/-- `mime_to_extension`. -/
def mimeToExtension (mime : String) : Option String :=
  [("image/jpeg", "jpg"), ("image/png", "png"), ("image/webp", "webp"), ("image/gif", "gif"),
    ("image/svg+xml", "svg"), ("application/pdf", "pdf"), ("application/msword", "doc"),
    ("application/vnd.openxmlformats-officedocument.wordprocessingml.document", "docx"),
    ("application/vnd.ms-powerpoint", "ppt"),
    ("application/vnd.openxmlformats-officedocument.presentationml.presentation", "pptx"),
    ("application/vnd.ms-excel", "xls"),
    ("application/vnd.openxmlformats-officedocument.spreadsheetml.sheet", "xlsx"),
    ("text/plain", "txt"), ("text/markdown", "md"), ("application/zip", "zip")].lookup mime

/-- `UploadResult`. -/
structure UploadResult where
  path : String
  publicUrl : String

/-- How the storage service answers a put, and the name it is put under. -/
structure PutReply where
  filename : String := "file"
  result : Except String Unit := .ok ()

/-- `trim_end_matches('/')`. -/
def trimEndSlashes (s : String) : String :=
  String.ofList ((s.toList.reverse.dropWhile (· == '/')).reverse)

/-- `generate_public_url`. -/
def generatePublicUrl (publicUrlBase path : String) : String :=
  trimEndSlashes publicUrlBase ++ "/" ++ path

/-- `upload`. -/
def upload (publicUrlBase category : String) (bytes : List UInt8) (contentType : String)
    (put : PutReply) : Except String UploadResult :=
  match uploadCategories.find? fun c => c.name == category with
  | none => .error ("unknown upload category '" ++ category ++ "'")
  | some cat =>
    if cat.maxSizeKb * 1024 < bytes.length then
      .error ("file too large for category '" ++ category ++ "'")
    else
      match mimeToExtension contentType with
      | none =>
        .error ("unsupported content type '" ++ contentType ++ "' for category '" ++ category ++
          "'")
      | some ext =>
        if ext ∉ cat.allowedExtensions then
          .error ("content type '" ++ contentType ++ "' (→ " ++ ext ++
            ") not allowed in category '" ++ category ++ "'")
        else
          let objectKey := cat.path ++ "/" ++ put.filename ++ "." ++ ext
          match put.result with
          | .error e => .error ("failed to upload '" ++ objectKey ++ "' to R2: " ++ e)
          | .ok () => .ok { path := objectKey, publicUrl := generatePublicUrl publicUrlBase objectKey }

/-- `trim_start_matches('/')`. -/
def trimStartSlashes (s : String) : String := String.ofList (s.toList.dropWhile (· == '/'))

/-- `extract_object_key`. -/
def extractObjectKey (publicUrl publicUrlBase : String) : Option String :=
  (Text.stripLeading publicUrl (trimEndSlashes publicUrlBase)).map trimStartSlashes

/-- A key that does not begin with a slash is read off its public url. -/
theorem extractObjectKey_generatePublicUrl {path : String} (base : String)
    (h : path.toList.head? ≠ some '/') :
    extractObjectKey (generatePublicUrl base path) base = some path := by
  have htrim : trimStartSlashes ("/" ++ path) = path := by
    unfold trimStartSlashes
    rw [String.toList_append, show "/".toList = ['/'] from rfl, List.singleton_append,
      List.dropWhile_cons_of_pos (by decide)]
    cases hpath : path.toList with
    | nil => exact (String.toList_eq_nil_iff.1 hpath).symm
    | cons c cs =>
      have hc : (c == '/') = false := by
        rw [hpath] at h
        exact beq_false_of_ne fun hc => h (congrArg some hc)
      rw [List.dropWhile_cons_of_neg (by simp [hc]), ← hpath, String.ofList_toList]
  unfold extractObjectKey generatePublicUrl
  rw [String.append_assoc, Text.stripLeading_append, Option.map_some, htrim]

/-- A file that an upload accepts is put under a path of its category, whatever the storage
answers. -/
theorem upload_eq_ok {base category contentType filename : String} {bytes : List UInt8}
    {r : UploadResult} (h : upload base category bytes contentType { filename } = .ok r) :
    r.publicUrl = generatePublicUrl base r.path ∧
      (∃ cat ∈ uploadCategories, cat.name = category ∧
        ∃ rest, r.path = cat.path ++ "/" ++ rest) ∧
      ∀ result, upload base category bytes contentType { filename, result } =
        match result with
        | .ok _ => .ok r
        | .error e => .error ("failed to upload '" ++ r.path ++ "' to R2: " ++ e) := by
  unfold upload at h ⊢
  split at h
  · cases h
  · next cat hcat =>
    split at h
    · cases h
    · next hsize =>
      split at h
      · cases h
      · next ext hext =>
        split at h
        · cases h
        · next hallowed =>
          obtain rfl := Except.ok.inj h
          refine ⟨rfl, ⟨cat, List.mem_of_find?_eq_some hcat, ?_, filename ++ "." ++ ext, ?_⟩, ?_⟩
          · simpa using List.find?_some hcat
          · simp only [String.append_assoc]
          · intro result
            rw [if_neg hsize]
            dsimp only
            rw [if_neg hallowed]
            cases result <;> rfl

/-- The key of an accepted file is read off its public url. -/
theorem extractObjectKey_of_upload {base category contentType filename : String}
    {bytes : List UInt8} {r : UploadResult}
    (h : upload base category bytes contentType { filename } = .ok r) :
    extractObjectKey r.publicUrl base = some r.path := by
  obtain ⟨hurl, ⟨cat, hcat, -, rest, hpath⟩, -⟩ := upload_eq_ok h
  have hhead : ∀ cat ∈ uploadCategories, (cat.path.toList.head?.any (· ≠ '/')) = true := by decide
  rw [hurl]
  refine extractObjectKey_generatePublicUrl base fun hslash => ?_
  rw [hpath, String.append_assoc, String.toList_append, List.head?_append] at hslash
  have hfirst := hhead cat hcat
  cases hc : cat.path.toList.head? with
  | none =>
    rw [hc] at hfirst
    cases hfirst
  | some c =>
    rw [hc] at hfirst hslash
    exact of_decide_eq_true hfirst (Option.some.inj hslash)

end KlassGateway.Storage
