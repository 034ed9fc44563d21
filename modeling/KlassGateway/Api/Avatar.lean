import KlassGateway.Api.Handlers
import KlassGateway.Auth.Effects
import KlassGateway.Lib.Typestate
import KlassGateway.Storage.R2
/-!
# Avatar uploads

Model of `upload_avatar` in `api/rest/avatar.rs`, with the calls it makes of `storage/r2.rs` and
of `db/repositories/users.rs`.

An upload is a sequence of calls on two stores, the row of the user and the objects under the
public base.  Any call can fail, with or without its effect, and other uploads of the user run
between two calls.  The response of an upload ends it.
-/

namespace KlassGateway.Api

open Lib Auth Storage

/-! ## The file -/

/-- A field of a multipart body.  Its bytes may be cut off. -/
structure MultipartField where
  name : Option String
  contentType : Option String
  data : Except String (List UInt8)

/-- A file with its content type. -/
structure AvatarFile where
  bytes : List UInt8
  mime : String

/-- The loop of `upload_avatar`: the bytes and the content type of the first field `file`. -/
def fileField : List (Except String MultipartField) →
    Except AppError (Option (List UInt8) × Option String)
  | [] => .ok (none, none)
  | .error e :: _ => .error (.validation ("failed to read multipart field: " ++ e))
  | .ok field :: rest =>
    if field.name.getD "" = "file" then
      match field.data with
      | .error e => .error (.validation ("failed to read file data: " ++ e))
      | .ok data => .ok (some data, field.contentType)
    else fileField rest

/-- The file that `upload_avatar` stores. -/
def avatarFile (multipart : List (Except String MultipartField)) : Except AppError AvatarFile :=
  match fileField multipart with
  | .error e => .error e
  | .ok (none, _) => .error (.validation "missing 'file' field in multipart form")
  | .ok (some _, none) => .error (.validation "missing content type for avatar file")
  | .ok (some bytes, some mime) => .ok { bytes, mime }

/-- `AvatarData`. -/
structure AvatarData where
  user : UserResource
  avatarUrl : String

/-! ## Calls -/

/-- The calls of an upload.  `respond` is the response of the upload with the number. -/
inductive AvatarOp where
  | put (path : String)
  | findById
  | delete (path : String)
  | updateAvatar (avatarUrl : String)
  | respond (upload : Nat) (reply : Except AppError AvatarData)

/-- Their answers. -/
abbrev AvatarOp.Resp : AvatarOp → Type
  | put _ => Except String Unit
  | findById => Except String (Option User)
  | delete _ => Except String Unit
  | updateAvatar _ => Except String Unit
  | respond _ _ => Unit

/-- The calls with their answers. -/
def avatarOps : Interface := ⟨AvatarOp, AvatarOp.Resp⟩

/-- The row of the user and the objects of its avatars.  What has happened is kept beside them:
the objects that uploads have deleted, the avatars that the row has had, the calls that have
failed, and the responses. -/
structure AvatarWorld where
  user : User
  objects : List String
  deleted : List String
  stored : List (Option String)
  failures : List AvatarOp
  replies : List (Nat × Except AppError AvatarData)

namespace AvatarWorld

/-- The object is there from now on. -/
def putObject (w : AvatarWorld) (path : String) : AvatarWorld :=
  { w with objects := path :: w.objects.filter (· ≠ path) }

/-- The object is gone from now on. -/
def deleteObject (w : AvatarWorld) (path : String) : AvatarWorld :=
  { w with objects := w.objects.filter (· ≠ path), deleted := path :: w.deleted }

/-- `UPDATE users SET avatar_url`. -/
def setAvatar (w : AvatarWorld) (avatarUrl : String) : AvatarWorld :=
  { w with
    user := { w.user with avatarUrl := some avatarUrl }
    stored := some avatarUrl :: w.stored }

/-- A call that fails. -/
def note (w : AvatarWorld) (o : AvatarOp) : Fault → AvatarWorld
  | .none => w
  | _ => { w with failures := o :: w.failures }

/-- What the calls do. -/
def exec (w : AvatarWorld) : (o : AvatarOp) → Fault → o.Resp × AvatarWorld
  | .put path, fault =>
    let w := w.note (.put path) fault
    withFault id fault w (.ok (), w.putObject path)
  | .findById, fault =>
    let w := w.note .findById fault
    withFault ("failed to find user by id: " ++ ·) fault w (.ok (some w.user), w)
  | .delete path, fault =>
    let w := w.note (.delete path) fault
    withFault id fault w (.ok (), w.deleteObject path)
  | .updateAvatar avatarUrl, fault =>
    let w := w.note (.updateAvatar avatarUrl) fault
    withFault ("failed to update avatar: " ++ ·) fault w (.ok (), w.setAvatar avatarUrl)
  | .respond upload reply, _ => ((), { w with replies := (upload, reply) :: w.replies })

end AvatarWorld

/-! ## The handler -/

/-- A program of an upload with an error. -/
abbrev AvatarResult (ε α : Type) := Fallible avatarOps ε α

/-- `r2::upload`. -/
def r2Upload (publicUrlBase category : String) (file : AvatarFile) (filename : String) :
    AvatarResult String UploadResult :=
  match upload publicUrlBase category file.bytes file.mime { filename } with
  | .error e => throw e
  | .ok checked => ExceptT.mk (.op (.put checked.path) fun result =>
      .ret (upload publicUrlBase category file.bytes file.mime { filename, result }))

/-- `r2::delete`. -/
def r2Delete (path : String) : Prog avatarOps Bool :=
  .op (.delete path) fun answer : Except String Unit => .ret answer.isOk

/-- `find_by_id` of the principal, who is to be found. -/
def findPrincipal (missing : String) : AvatarResult AppError User :=
  ExceptT.mk (.op .findById fun
    | .error e => .ret (.error (.anyhow e))
    | .ok none => .ret (.error (.notFound missing))
    | .ok (some user) => .ret (.ok user))

/-- Delete the object of an avatar, if the avatar is under the public base. -/
def deleteOld (publicUrlBase : String) (avatarUrl : Option String) : Prog avatarOps Unit :=
  match avatarUrl.bind (extractObjectKey · publicUrlBase) with
  | none => .ret ()
  | some oldKey => (r2Delete oldKey).bind fun _ => .ret ()

/-- `update_avatar`. -/
def updateAvatar (avatarUrl : String) : AvatarResult AppError Unit :=
  ExceptT.mk (.op (.updateAvatar avatarUrl) fun answer : Except String Unit =>
    .ret (answer.mapError .anyhow))

/-- A request to `upload_avatar`, with the random name that its object gets. -/
structure AvatarRequest where
  multipart : List (Except String MultipartField)
  filename : String

/-- `upload_avatar`. -/
def uploadAvatar (publicUrlBase : String) (request : AvatarRequest) :
    AvatarResult AppError AvatarData := do
  let file ← ExceptT.mk (.ret (avatarFile request.multipart))
  let uploadResult ← mapErr (fun e => .internal ("upload failed: " ++ e))
    (r2Upload publicUrlBase "avatars" file request.filename)
  let user ← findPrincipal "user not found"
  -- the old object goes before the row names the new one
  liftM (deleteOld publicUrlBase user.avatarUrl)
  updateAvatar uploadResult.publicUrl
  let user ← findPrincipal "user not found after avatar update"
  return { user := user.toResource, avatarUrl := uploadResult.publicUrl }

namespace AvatarRequest

/-- The upload with the number, up to its response. -/
def prog (publicUrlBase : String) (number : Nat) (request : AvatarRequest) : Prog avatarOps Unit :=
  (uploadAvatar publicUrlBase request).run.bind fun reply => .op (.respond number reply) .ret

/-- What the file is put under, if the checks let it through. -/
def accepted (publicUrlBase : String) (request : AvatarRequest) : Option UploadResult :=
  match avatarFile request.multipart with
  | .error _ => none
  | .ok file =>
    (upload publicUrlBase "avatars" file.bytes file.mime { filename := request.filename }).toOption

end AvatarRequest

/-- Uploads of a user beside each other. -/
def avatarSystem : Pool avatarOps where
  World := AvatarWorld
  Choice := Fault
  exec w o fault := w.exec o fault
  Label := Unit
  Arrival := Empty
  relabel _ _ _ := ()
  arrive _ arrival := arrival.elim

/-- Some uploads of a user.  The random names keep their objects apart from each other and from
the object of the avatar before them. -/
structure AvatarUploads where
  publicUrlBase : String
  user : User
  requests : List AvatarRequest
  distinct : ((requests.filterMap (AvatarRequest.accepted publicUrlBase)).map (·.path)).Nodup
  fresh : ∀ r ∈ requests.filterMap (AvatarRequest.accepted publicUrlBase),
    user.avatarUrl.bind (extractObjectKey · publicUrlBase) ≠ some r.path

namespace AvatarUploads

variable (u : AvatarUploads)

/-- The key that an avatar names, if it lies under the public base. -/
def keyOf (avatarUrl : Option String) : Option String :=
  avatarUrl.bind (extractObjectKey · u.publicUrlBase)

/-- The object of the avatar before the uploads. -/
def previous : Option String := u.keyOf u.user.avatarUrl

/-- The objects that the uploads put. -/
def keys : List String :=
  (u.requests.filterMap (AvatarRequest.accepted u.publicUrlBase)).map (·.path)

/-- Before the first call. -/
def start : avatarSystem.State where
  world :=
    { user := u.user
      objects := u.previous.toList
      deleted := []
      stored := [u.user.avatarUrl]
      failures := []
      replies := [] }
  next := u.requests.length
  tasks i := u.requests[i]?.bind fun request =>
    Pool.keep () (request.prog u.publicUrlBase i)

/-- The states of all runs: every step is a call of one of the uploads. -/
def Reached (s : avatarSystem.State) : Prop :=
  Pool.Reach (fun _ a => ∃ i fault, a = Pool.Action.act i fault) u.start s

end AvatarUploads

end KlassGateway.Api
