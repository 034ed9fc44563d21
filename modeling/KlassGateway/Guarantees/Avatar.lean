import KlassGateway.Api.Avatar
import Mathlib.Data.List.Nodup
/-!
# What avatar uploads leave

* `follows_prog`: the order of the calls of an upload.
* `deleted_was_stored`: an upload only deletes what was an avatar of the user.
* `avatarsKept_iff`: for which uploads the avatar never names a deleted object and nothing is
  left over: at most one that has a file to store, and then no avatar under the public base
  before it.
-/

namespace KlassGateway.Api

open Lib Auth Storage

/-! ## The calls of an upload -/

section Shape

variable {publicUrlBase : String} {number : Nat} {request : AvatarRequest} {r : UploadResult}

/-- An upload from some point on. -/
def finishing (number : Nat) (p : AvatarResult AppError AvatarData) : Prog avatarOps Unit :=
  p.run.bind fun reply => .op (.respond number reply) .ret

/-- An upload whose row names the new object. -/
def afterUpdate (number : Nat) (r : UploadResult) : Prog avatarOps Unit :=
  finishing number do
    let user ← findPrincipal "user not found after avatar update"
    return { user := user.toResource, avatarUrl := r.publicUrl }

/-- An upload that has deleted what it deletes. -/
def afterDelete (number : Nat) (r : UploadResult) : Prog avatarOps Unit :=
  .op (.updateAvatar r.publicUrl) fun
    | .ok _ => afterUpdate number r
    | .error e => .op (.respond number (.error (.anyhow e))) .ret

/-- An upload that has read the row. -/
def afterRead (publicUrlBase : String) (number : Nat) (r : UploadResult) (user : User) :
    Prog avatarOps Unit :=
  match user.avatarUrl.bind (extractObjectKey · publicUrlBase) with
  | none => afterDelete number r
  | some oldKey => .op (.delete oldKey) fun _ => afterDelete number r

/-- An upload whose object is put. -/
def afterPut (publicUrlBase : String) (number : Nat) (r : UploadResult) : Prog avatarOps Unit :=
  .op .findById fun
    | .error e => .op (.respond number (.error (.anyhow e))) .ret
    | .ok none => .op (.respond number (.error (.notFound "user not found"))) .ret
    | .ok (some user) => afterRead publicUrlBase number r user

theorem finishing_eq_afterDelete :
    (finishing number do
      updateAvatar r.publicUrl
      let user ← findPrincipal "user not found after avatar update"
      return { user := user.toResource, avatarUrl := r.publicUrl }) = afterDelete number r := by
  refine congrArg (Prog.op (I := avatarOps) (.updateAvatar r.publicUrl)) (funext fun answer => ?_)
  cases answer with
  | error e => rfl
  | ok _ => rfl

theorem finishing_eq_afterRead (user : User) :
    (finishing number do
      liftM (deleteOld publicUrlBase user.avatarUrl)
      updateAvatar r.publicUrl
      let user ← findPrincipal "user not found after avatar update"
      return { user := user.toResource, avatarUrl := r.publicUrl }) =
        afterRead publicUrlBase number r user := by
  unfold afterRead deleteOld
  cases user.avatarUrl.bind (extractObjectKey · publicUrlBase) with
  | none => exact finishing_eq_afterDelete
  | some oldKey =>
    exact congrArg (Prog.op (I := avatarOps) (.delete oldKey))
      (funext fun _ => finishing_eq_afterDelete)

theorem accepted_eq_some (h : request.accepted publicUrlBase = some r) :
    ∃ file, avatarFile request.multipart = .ok file ∧
      upload publicUrlBase "avatars" file.bytes file.mime { filename := request.filename } =
        .ok r := by
  unfold AvatarRequest.accepted at h
  cases hfile : avatarFile request.multipart with
  | error e =>
    rw [hfile] at h
    cases h
  | ok file =>
    rw [hfile] at h
    refine ⟨file, rfl, ?_⟩
    dsimp only at h
    cases hup : upload publicUrlBase "avatars" file.bytes file.mime
        { filename := request.filename } with
    | error e =>
      rw [hup] at h
      cases h
    | ok r' =>
      rw [hup] at h
      exact congrArg _ (Option.some.inj h)

/-- An upload whose file is refused makes no call. -/
theorem prog_of_refused (number : Nat) (h : request.accepted publicUrlBase = none) :
    ∃ e, request.prog publicUrlBase number = .op (.respond number (.error e)) .ret := by
  unfold AvatarRequest.accepted at h
  unfold AvatarRequest.prog uploadAvatar
  cases hfile : avatarFile request.multipart with
  | error e => exact ⟨e, rfl⟩
  | ok file =>
    rw [hfile] at h
    dsimp only at h
    cases hup : upload publicUrlBase "avatars" file.bytes file.mime
        { filename := request.filename } with
    | error e =>
      refine ⟨.internal ("upload failed: " ++ e), ?_⟩
      have hr2 : r2Upload publicUrlBase "avatars" file request.filename = throw e := by
        unfold r2Upload
        rw [hup]
      change ((mapErr _ (r2Upload publicUrlBase "avatars" file request.filename) >>= _).run.bind
        _ : Prog avatarOps Unit) = _
      rw [hr2]
      rfl
    | ok r' =>
      rw [hup] at h
      cases h

/-- An upload whose file is accepted puts it first. -/
theorem prog_of_accepted (number : Nat) (h : request.accepted publicUrlBase = some r) :
    ∃ k, request.prog publicUrlBase number = .op (.put r.path) k ∧
      (k (.ok ()) = afterPut publicUrlBase number r) ∧
      ∀ message, ∃ e, k (.error message) = .op (.respond number (.error e)) .ret := by
  obtain ⟨file, hfile, hup⟩ := accepted_eq_some h
  have hanswer := (upload_eq_ok hup).2.2
  have hr2 : r2Upload publicUrlBase "avatars" file request.filename =
      ExceptT.mk (.op (.put r.path) fun result =>
        .ret (upload publicUrlBase "avatars" file.bytes file.mime
          { filename := request.filename, result })) := by
    unfold r2Upload
    rw [hup]
  unfold AvatarRequest.prog uploadAvatar
  rw [hfile]
  change ∃ k, ((mapErr _ (r2Upload publicUrlBase "avatars" file request.filename) >>= _).run.bind
    _ : Prog avatarOps Unit) = _ ∧ _
  rw [hr2]
  refine ⟨_, rfl, ?_, fun message => ?_⟩
  · simp only [hanswer]
    refine congrArg (Prog.op (I := avatarOps) .findById) (funext fun answer => ?_)
    cases answer with
    | error e => rfl
    | ok found =>
      cases found with
      | none => rfl
      | some user => exact finishing_eq_afterRead user
  · simp only [hanswer]
    exact ⟨_, rfl⟩

end Shape

/-! ## The discipline of an upload -/

/-- Where an upload stands: what it is to put, what it has put, and what it has read. -/
inductive AvatarMode where
  | waiting (file : Option UploadResult)
  | put (r : UploadResult)
  | read (r : UploadResult) (avatarUrl : Option String)
  | updated (r : UploadResult)
  | fetched (r : UploadResult)
  | failed
  | done

namespace AvatarMode

/-- The object of the upload, unless it has failed. -/
def file : AvatarMode → Option UploadResult
  | waiting file => file
  | put r | read r _ | updated r | fetched r => some r
  | failed | done => none

/-- The object is put. -/
def HasPut : AvatarMode → Prop
  | put _ | read _ _ | updated _ | fetched _ => True
  | _ => False

/-- The row is still to be updated. -/
def BeforeUpdate : AvatarMode → Prop
  | waiting file => file.isSome
  | put _ | read _ _ => True
  | _ => False

/-- The calls that are made in a mode. -/
def Allows (publicUrlBase : String) : AvatarMode → AvatarOp → Prop
  | waiting (some r), .put path => path = r.path
  | waiting none, .respond _ reply => reply.isOk = false
  | put _, .findById => True
  | read _ avatarUrl, .delete path =>
    avatarUrl.bind (extractObjectKey · publicUrlBase) = some path
  | read r _, .updateAvatar avatarUrl => avatarUrl = r.publicUrl
  | updated _, .findById => True
  | fetched _, .respond _ _ => True
  | failed, .respond _ reply => reply.isOk = false
  | _, _ => False

/-- The mode after a call. -/
def next : AvatarMode → (o : AvatarOp) → o.Resp → AvatarMode
  | waiting (some r), .put _, .ok _ => put r
  | put r, .findById, .ok (some user) => read r user.avatarUrl
  | read r avatarUrl, .delete _, _ => read r avatarUrl
  | read r _, .updateAvatar _, .ok _ => updated r
  | updated r, .findById, .ok (some _) => fetched r
  | _, .respond _ _, _ => done
  | _, _, _ => failed

end AvatarMode

/-- The calls of an upload, mode by mode. -/
def avatarSpec (publicUrlBase : String) : OpSpec avatarOps AvatarMode where
  pre := AvatarMode.Allows publicUrlBase
  step mode o answer mode' := mode' = mode.next o answer

section Follows

variable {publicUrlBase : String} {number : Nat} {r : UploadResult}

theorem follows_respond {mode : AvatarMode} {reply : Except AppError AvatarData}
    (h : mode.Allows publicUrlBase (.respond number reply)) :
    (Prog.op (I := avatarOps) (.respond number reply) .ret).wp (avatarSpec publicUrlBase)
      (fun _ _ => True) mode :=
  ⟨h, fun _ _ _ => trivial⟩

theorem follows_afterUpdate :
    (afterUpdate number r).wp (avatarSpec publicUrlBase) (fun _ _ => True) (.updated r) := by
  refine ⟨trivial, fun answer mode hmode => ?_⟩
  subst hmode
  cases answer with
  | error e => exact follows_respond rfl
  | ok found =>
    cases found with
    | none => exact follows_respond rfl
    | some user => exact follows_respond trivial

theorem follows_afterDelete {avatarUrl : Option String} :
    (afterDelete number r).wp (avatarSpec publicUrlBase) (fun _ _ => True)
      (.read r avatarUrl) := by
  refine ⟨rfl, fun answer mode hmode => ?_⟩
  subst hmode
  cases answer with
  | error e => exact follows_respond rfl
  | ok _ => exact follows_afterUpdate

theorem follows_afterRead (user : User) :
    (afterRead publicUrlBase number r user).wp (avatarSpec publicUrlBase) (fun _ _ => True)
      (.read r user.avatarUrl) := by
  unfold afterRead
  cases hold : user.avatarUrl.bind (extractObjectKey · publicUrlBase) with
  | none => exact follows_afterDelete
  | some oldKey =>
    refine ⟨hold, fun answer mode hmode => ?_⟩
    subst hmode
    exact follows_afterDelete

theorem follows_afterPut :
    (afterPut publicUrlBase number r).wp (avatarSpec publicUrlBase) (fun _ _ => True)
      (.put r) := by
  refine ⟨trivial, fun answer mode hmode => ?_⟩
  subst hmode
  cases answer with
  | error e => exact follows_respond rfl
  | ok found =>
    cases found with
    | none => exact follows_respond rfl
    | some user => exact follows_afterRead user

/-- Every upload makes its calls in this order. -/
theorem follows_prog (publicUrlBase : String) (number : Nat) (request : AvatarRequest) :
    (request.prog publicUrlBase number).wp (avatarSpec publicUrlBase) (fun _ _ => True)
      (.waiting (request.accepted publicUrlBase)) := by
  cases h : request.accepted publicUrlBase with
  | none =>
    obtain ⟨e, hprog⟩ := prog_of_refused number h
    rw [hprog]
    exact follows_respond rfl
  | some r =>
    obtain ⟨k, hprog, hok, herror⟩ := prog_of_accepted number h
    rw [hprog]
    refine ⟨rfl, fun answer mode hmode => ?_⟩
    subst hmode
    cases answer with
    | ok _ =>
      rw [hok]
      exact follows_afterPut
    | error message =>
      obtain ⟨e, he⟩ := herror message
      rw [he]
      exact follows_respond rfl

end Follows

/-! ## What a call does -/

/-- The world and the mode after a call of an upload.  A call that fails may have had its
effect. -/
inductive AvatarMoves (publicUrlBase : String) (w : AvatarWorld) :
    AvatarMode → AvatarWorld → AvatarMode → Prop
  | unput {r : UploadResult} (failures : List AvatarOp) :
    AvatarMoves publicUrlBase w (.waiting (some r)) { w with failures } .failed
  | put {r : UploadResult} {mode : AvatarMode} (failures : List AvatarOp)
    (hmode : mode = .put r ∨ mode = .failed) :
    AvatarMoves publicUrlBase w (.waiting (some r)) { w.putObject r.path with failures } mode
  | read {r : UploadResult} {mode : AvatarMode} (failures : List AvatarOp)
    (hmode : mode = .read r w.user.avatarUrl ∨ mode = .failed) :
    AvatarMoves publicUrlBase w (.put r) { w with failures } mode
  | undeleted {r : UploadResult} {avatarUrl : Option String} (failures : List AvatarOp) :
    AvatarMoves publicUrlBase w (.read r avatarUrl) { w with failures } (.read r avatarUrl)
  | deleted {r : UploadResult} {avatarUrl : Option String} {key : String}
    (failures : List AvatarOp)
    (hkey : avatarUrl.bind (extractObjectKey · publicUrlBase) = some key) :
    AvatarMoves publicUrlBase w (.read r avatarUrl) { w.deleteObject key with failures }
      (.read r avatarUrl)
  | unset {r : UploadResult} {avatarUrl : Option String} (failures : List AvatarOp) :
    AvatarMoves publicUrlBase w (.read r avatarUrl) { w with failures } .failed
  | set {r : UploadResult} {avatarUrl : Option String} {mode : AvatarMode}
    (failures : List AvatarOp) (hmode : mode = .updated r ∨ mode = .failed) :
    AvatarMoves publicUrlBase w (.read r avatarUrl) { w.setAvatar r.publicUrl with failures } mode
  | fetched {r : UploadResult} {mode : AvatarMode} (failures : List AvatarOp)
    (hmode : mode = .fetched r ∨ mode = .failed) :
    AvatarMoves publicUrlBase w (.updated r) { w with failures } mode
  | answered {mode : AvatarMode} (number : Nat) (reply : Except AppError AvatarData)
    (hreply : reply.isOk = true → ∃ r, mode = .fetched r) :
    AvatarMoves publicUrlBase w mode { w with replies := (number, reply) :: w.replies } .done

/-- Every call that a mode allows moves the upload so. -/
theorem moves_of_allows {publicUrlBase : String} {mode : AvatarMode} {o : AvatarOp}
    (h : mode.Allows publicUrlBase o) (w : AvatarWorld) (fault : Fault) :
    AvatarMoves publicUrlBase w mode (w.exec o fault).2 (mode.next o (w.exec o fault).1) := by
  cases o with
  | put path =>
    cases mode with
    | waiting file =>
      cases file with
      | none => exact h.elim
      | some r =>
        obtain rfl : path = r.path := h
        cases fault with
        | none => exact .put w.failures (Or.inl rfl)
        | failed message => exact .unput _
        | lost message => exact .put _ (Or.inr rfl)
    | _ => exact h.elim
  | findById =>
    cases mode with
    | put r =>
      cases fault with
      | none => exact .read w.failures (Or.inl rfl)
      | failed message => exact .read _ (Or.inr rfl)
      | lost message => exact .read _ (Or.inr rfl)
    | updated r =>
      cases fault with
      | none => exact .fetched w.failures (Or.inl rfl)
      | failed message => exact .fetched _ (Or.inr rfl)
      | lost message => exact .fetched _ (Or.inr rfl)
    | waiting file => cases file <;> exact h.elim
    | _ => exact h.elim
  | delete path =>
    cases mode with
    | read r avatarUrl =>
      cases fault with
      | none => exact .deleted w.failures h
      | failed message => exact .undeleted _
      | lost message => exact .deleted _ h
    | waiting file => cases file <;> exact h.elim
    | _ => exact h.elim
  | updateAvatar newUrl =>
    cases mode with
    | read r avatarUrl =>
      obtain rfl : newUrl = r.publicUrl := h
      cases fault with
      | none => exact .set w.failures (Or.inl rfl)
      | failed message => exact .unset _
      | lost message => exact .set _ (Or.inr rfl)
    | waiting file => cases file <;> exact h.elim
    | _ => exact h.elim
  | respond number reply =>
    cases mode with
    | waiting file =>
      cases file with
      | none => exact .answered number reply fun hok => by simp_all [AvatarMode.Allows]
      | some r => exact h.elim
    | fetched r => exact .answered number reply fun _ => ⟨r, rfl⟩
    | failed => exact .answered number reply fun hok => by simp_all [AvatarMode.Allows]
    | _ => exact h.elim

/-! ## What is deleted -/

/-- A task of the uploads, as a discipline sees it. -/
abbrev AvatarView := Nat → Option (Unit × AvatarMode)

/-- A task after one call of task `i`. -/
theorem view_update {v : AvatarView} {i j : Nat} {mode mode' : AvatarMode} {l : Unit}
    (h : Function.update v i (some ((), mode')) j = some (l, mode)) :
    j = i ∧ mode = mode' ∨ j ≠ i ∧ v j = some (l, mode) := by
  by_cases hj : j = i
  · subst hj
    rw [Function.update_self] at h
    exact Or.inl ⟨rfl, (congrArg Prod.snd (Option.some.inj h)).symm⟩
  · rw [Function.update_of_ne hj] at h
    exact Or.inr ⟨hj, h⟩

namespace AvatarUploads

variable (u : AvatarUploads)

/-- What an upload has read was stored, and so was what names a deleted object. -/
structure Owned (w : AvatarWorld) (v : AvatarView) : Prop where
  current : w.user.avatarUrl ∈ w.stored
  read : ∀ i l r avatarUrl, v i = some (l, .read r avatarUrl) → avatarUrl ∈ w.stored
  deleted : ∀ key ∈ w.deleted, ∃ avatarUrl ∈ w.stored, u.keyOf avatarUrl = some key

variable {u}

/-- A call keeps what was stored, and adds what it deletes and what it reads. -/
theorem Owned.step {w w' : AvatarWorld} {v : AvatarView} {i : Nat} {mode' : AvatarMode}
    (h : u.Owned w v) (hstored : ∀ avatarUrl ∈ w.stored, avatarUrl ∈ w'.stored)
    (hcurrent : w'.user.avatarUrl ∈ w'.stored)
    (hdeleted : ∀ key ∈ w'.deleted, key ∈ w.deleted ∨
      ∃ avatarUrl ∈ w.stored, u.keyOf avatarUrl = some key)
    (hread : ∀ r avatarUrl, mode' = .read r avatarUrl → avatarUrl ∈ w.stored) :
    u.Owned w' (Function.update v i (some ((), mode'))) := by
  refine ⟨hcurrent, fun j l r avatarUrl hj => ?_, fun key hkey => ?_⟩
  · rcases view_update hj with ⟨-, hmode⟩ | ⟨-, hj⟩
    · exact hstored _ (hread r avatarUrl hmode.symm)
    · exact hstored _ (h.read j l r avatarUrl hj)
  · rcases hdeleted key hkey with hold | ⟨avatarUrl, hmem, hkeyOf⟩
    · obtain ⟨avatarUrl, hmem, hkeyOf⟩ := h.deleted key hold
      exact ⟨avatarUrl, hstored _ hmem, hkeyOf⟩
    · exact ⟨avatarUrl, hstored _ hmem, hkeyOf⟩

theorem Owned.act {w w' : AvatarWorld} {v : AvatarView} {i : Nat} {mode mode' : AvatarMode}
    (h : u.Owned w v) (hi : v i = some ((), mode))
    (hmoves : AvatarMoves u.publicUrlBase w mode w' mode') :
    u.Owned w' (Function.update v i (some ((), mode'))) := by
  cases hmoves with
  | unput failures =>
    exact h.step (fun _ => id) h.current (fun _ => Or.inl) fun _ _ hmode => by cases hmode
  | put failures hmode =>
    refine h.step (fun _ => id) h.current (fun _ => Or.inl) fun r' avatarUrl hread => ?_
    rcases hmode with rfl | rfl <;> cases hread
  | read failures hmode =>
    refine h.step (fun _ => id) h.current (fun _ => Or.inl) fun r' avatarUrl hread => ?_
    rcases hmode with rfl | rfl
    · cases hread
      exact h.current
    · cases hread
  | undeleted failures =>
    refine h.step (fun _ => id) h.current (fun _ => Or.inl) fun r' avatarUrl hread => ?_
    cases hread
    exact h.read i () _ _ hi
  | deleted failures hkey =>
    refine h.step (fun _ => id) h.current (fun key hmem => ?_) fun r' avatarUrl hread => ?_
    · rcases List.mem_cons.1 hmem with rfl | hmem
      · exact Or.inr ⟨_, h.read i () _ _ hi, hkey⟩
      · exact Or.inl hmem
    · cases hread
      exact h.read i () _ _ hi
  | unset failures =>
    exact h.step (fun _ => id) h.current (fun _ => Or.inl) fun _ _ hmode => by cases hmode
  | set failures hmode =>
    refine h.step (fun _ => List.mem_cons_of_mem _) List.mem_cons_self (fun _ => Or.inl)
      fun r' avatarUrl hread => ?_
    rcases hmode with rfl | rfl <;> cases hread
  | fetched failures hmode =>
    refine h.step (fun _ => id) h.current (fun _ => Or.inl) fun r' avatarUrl hread => ?_
    rcases hmode with rfl | rfl <;> cases hread
  | answered number reply hreply =>
    exact h.step (fun _ => id) h.current (fun _ => Or.inl) fun _ _ hmode => by cases hmode

/-- The modes before the first call. -/
def startModes (u : AvatarUploads) (i : Nat) : AvatarMode :=
  .waiting (u.requests[i]?.bind (AvatarRequest.accepted u.publicUrlBase))

theorem view_start {i : Nat} {l : Unit} {mode : AvatarMode}
    (h : Discipline.view u.start u.startModes i = some (l, mode)) :
    ∃ request, u.requests[i]? = some request ∧
      mode = .waiting (request.accepted u.publicUrlBase) := by
  obtain ⟨t, ht, hview⟩ := Option.map_eq_some_iff.1 h
  obtain ⟨request, hrequest, -⟩ := Option.bind_eq_some_iff.1 ht
  refine ⟨request, hrequest, ?_⟩
  have hmode : u.startModes i = mode := congrArg Prod.snd hview
  rw [← hmode, startModes, hrequest]
  rfl

/-- The discipline of the uploads, with an invariant. -/
def uploadDiscipline (u : AvatarUploads) (Inv : AvatarWorld → AvatarView → Prop) :
    Discipline avatarSystem AvatarMode := ⟨avatarSpec u.publicUrlBase, Inv⟩

/-- What holds before the first call and is kept by every call holds in every run. -/
theorem Reached.invariant {Inv : AvatarWorld → AvatarView → Prop}
    (hmono : ∀ w v v', (∀ i, v' i = none ∨ v' i = v i) → Inv w v → Inv w v')
    (hact : ∀ w w' v i mode mode', Inv w v → v i = some ((), mode) →
      AvatarMoves u.publicUrlBase w mode w' mode' →
        Inv w' (Function.update v i (some ((), mode'))))
    (hstart : Inv u.start.world (Discipline.view u.start u.startModes)) {s : avatarSystem.State}
    (h : u.Reached s) : ∃ f, Inv s.world (Discipline.view s f) := by
  have hkept : (u.uploadDiscipline Inv).Kept fun _ a => ∃ i fault, a = Pool.Action.act i fault := by
    refine ⟨hmono, fun s f i fault l o k _ hti hinv hallows => ?_, fun s f arrival => arrival.elim⟩
    exact ⟨_, rfl, hact s.world _ _ i (f i) _ hinv (Discipline.view_of_task hti)
      (moves_of_allows hallows s.world fault)⟩
  have hbefore : (u.uploadDiscipline Inv).Holds u.start := by
    refine ⟨u.startModes, hstart, fun i t ht => ?_⟩
    obtain ⟨request, hrequest, hkeep⟩ := Option.bind_eq_some_iff.1 ht
    obtain rfl := Pool.keep_eq_some hkeep
    have hmode : u.startModes i = .waiting (request.accepted u.publicUrlBase) := by
      unfold startModes
      rw [hrequest]
      rfl
    rw [hmode]
    exact follows_prog u.publicUrlBase i request
  obtain ⟨f, hinv, -⟩ := hkept.all.holds_of_reach h hbefore
  exact ⟨f, hinv⟩

/-- An upload only deletes the object of an avatar that the user had. -/
theorem deleted_was_stored {s : avatarSystem.State} (h : u.Reached s) {key : String}
    (hkey : key ∈ s.world.deleted) :
    ∃ avatarUrl ∈ s.world.stored, u.keyOf avatarUrl = some key := by
  have hmono : ∀ w v v', (∀ i, v' i = none ∨ v' i = v i) → u.Owned w v → u.Owned w v' := by
    intro w v v' hsub hinv
    refine ⟨hinv.current, fun i l r avatarUrl hi => ?_, hinv.deleted⟩
    rcases hsub i with hnone | hsame
    · rw [hnone] at hi
      cases hi
    · rw [hsame] at hi
      exact hinv.read i l r avatarUrl hi
  have hstart : u.Owned u.start.world (Discipline.view u.start u.startModes) := by
    refine ⟨List.mem_cons_self, fun i l r avatarUrl hi => ?_, fun key hkey => ?_⟩
    · obtain ⟨request, -, hmode⟩ := view_start hi
      cases hmode
    · exact absurd hkey List.not_mem_nil
  obtain ⟨f, hinv⟩ := h.invariant hmono (fun _ _ _ _ _ _ hinv hi => hinv.act hi) hstart
  exact hinv.deleted key hkey

/-! ## One upload and no avatar before it -/

/-- At most one upload has a file to store, and then there is no object to delete. -/
structure Lone (u : AvatarUploads) : Prop where
  single : u.keys.length ≤ 1
  fresh : u.keys ≠ [] → u.previous = none

/-- What holds beside a lone upload: nothing is deleted, and its object is there from the put on. -/
structure Quiet (u : AvatarUploads) (w : AvatarWorld) (v : AvatarView) : Prop where
  deleted : w.deleted = []
  objects : ∀ key ∈ w.objects, key ∈ u.keys ∨ u.previous = some key
  holder : ∀ i l mode r, v i = some (l, mode) → mode.file = some r →
    r.path ∈ u.keys ∧ (mode.HasPut → r.path ∈ w.objects)
  single : ∀ i j l l' mode mode', v i = some (l, mode) → v j = some (l', mode') →
    mode.file.isSome → mode'.file.isSome → i = j
  before : ∀ i l mode, v i = some (l, mode) → mode.BeforeUpdate →
    w.user.avatarUrl = u.user.avatarUrl
  read : ∀ i l r avatarUrl, v i = some (l, .read r avatarUrl) → avatarUrl = u.user.avatarUrl
  replies : ∀ i data, (i, .ok data) ∈ w.replies → ∃ key ∈ u.keys, key ∈ w.objects

/-- What a call of the only upload has to keep. -/
theorem Quiet.step {w w' : AvatarWorld} {v : AvatarView} {i : Nat} {mode mode' : AvatarMode}
    (h : u.Quiet w v) (hi : v i = some ((), mode)) (hdeleted : w'.deleted = [])
    (hkeep : ∀ key ∈ w.objects, key ∈ w'.objects)
    (hnew : ∀ key ∈ w'.objects, key ∈ w.objects ∨ key ∈ u.keys)
    (hfile : ∀ r, mode'.file = some r → mode.file = some r ∧
      (mode'.HasPut → r.path ∈ w'.objects))
    (huser : w'.user.avatarUrl = w.user.avatarUrl ∨ mode.file.isSome ∧ ¬ mode'.BeforeUpdate)
    (hbefore : mode'.BeforeUpdate → mode.BeforeUpdate)
    (hread : ∀ r avatarUrl, mode' = .read r avatarUrl → avatarUrl = u.user.avatarUrl)
    (hreplies : ∀ j data, (j, .ok data) ∈ w'.replies →
      (j, .ok data) ∈ w.replies ∨ ∃ r, mode.file = some r ∧ mode.HasPut) :
    u.Quiet w' (Function.update v i (some ((), mode'))) := by
  have hfiles : mode'.file.isSome → mode.file.isSome := by
    intro hsome
    obtain ⟨r, hr⟩ := Option.isSome_iff_exists.1 hsome
    rw [(hfile r hr).1]
    rfl
  have hpending : ∀ m : AvatarMode, m.BeforeUpdate → m.file.isSome := by
    intro m hm
    cases m with
    | waiting file => exact hm
    | put r => rfl
    | read r avatarUrl => rfl
    | updated r => exact hm.elim
    | fetched r => exact hm.elim
    | failed => exact hm.elim
    | done => exact hm.elim
  refine ⟨hdeleted, fun key hkey => ?_, fun j l m r hj hm => ?_,
    fun j k l l' m m' hj hk hm hm' => ?_, fun j l m hj hm => ?_, fun j l r avatarUrl hj => ?_,
    fun j data hmem => ?_⟩
  · rcases hnew key hkey with hold | hkeys
    · exact h.objects key hold
    · exact Or.inl hkeys
  · rcases view_update hj with ⟨-, rfl⟩ | ⟨-, hj⟩
    · exact ⟨(h.holder i () mode r hi (hfile r hm).1).1, (hfile r hm).2⟩
    · obtain ⟨hkey, hput⟩ := h.holder j l m r hj hm
      exact ⟨hkey, fun hhas => hkeep _ (hput hhas)⟩
  · rcases view_update hj with ⟨rfl, rfl⟩ | ⟨-, hjv⟩
    · rcases view_update hk with ⟨rfl, -⟩ | ⟨-, hkv⟩
      · rfl
      · exact h.single _ _ _ _ _ _ hi hkv (hfiles hm) hm'
    · rcases view_update hk with ⟨rfl, rfl⟩ | ⟨-, hkv⟩
      · exact h.single _ _ _ _ _ _ hjv hi hm (hfiles hm')
      · exact h.single _ _ _ _ _ _ hjv hkv hm hm'
  · rcases view_update hj with ⟨rfl, rfl⟩ | ⟨hne, hj⟩
    · rcases huser with hsame | ⟨-, hnot⟩
      · exact hsame.trans (h.before _ () mode hi (hbefore hm))
      · exact absurd hm hnot
    · rcases huser with hsame | ⟨hsome, -⟩
      · exact hsame.trans (h.before j l m hj hm)
      · exact absurd (h.single _ _ _ _ _ _ hj hi (hpending m hm) hsome) hne
  · rcases view_update hj with ⟨-, hmode⟩ | ⟨-, hj⟩
    · exact hread r avatarUrl hmode.symm
    · exact h.read j l r avatarUrl hj
  · rcases hreplies j data hmem with hold | ⟨r, hr, hhas⟩
    · obtain ⟨key, hkey, hobject⟩ := h.replies j data hold
      exact ⟨key, hkey, hkeep key hobject⟩
    · obtain ⟨hkey, hput⟩ := h.holder i () mode r hi hr
      exact ⟨r.path, hkey, hkeep _ (hput hhas)⟩

theorem Quiet.act (hlone : u.Lone) {w w' : AvatarWorld} {v : AvatarView} {i : Nat}
    {mode mode' : AvatarMode} (h : u.Quiet w v) (hi : v i = some ((), mode))
    (hmoves : AvatarMoves u.publicUrlBase w mode w' mode') :
    u.Quiet w' (Function.update v i (some ((), mode'))) := by
  cases hmoves with
  | unput failures =>
    exact h.step hi h.deleted (fun _ => id) (fun _ => Or.inl) (fun _ hr => by cases hr)
      (Or.inl rfl) (fun hb => hb.elim) (fun _ _ hmode => by cases hmode) fun _ _ => Or.inl
  | @put r _ failures hmode =>
    have hpath := (h.holder i () _ r hi rfl).1
    have hfile : ∀ r', mode'.file = some r' → r' = r := by
      intro r' hr'
      rcases hmode with rfl | rfl
      · exact (Option.some.inj hr').symm
      · cases hr'
    refine h.step hi h.deleted (fun key hkey => ?_) (fun key hkey => ?_) (fun r' hr' => ?_)
      (Or.inl rfl) (fun _ => rfl) (fun r' avatarUrl hread => ?_) fun _ _ => Or.inl
    · by_cases hsame : key = r.path
      · rw [hsame]
        exact List.mem_cons_self
      · exact List.mem_cons_of_mem _ (List.mem_filter.2 ⟨hkey, decide_eq_true hsame⟩)
    · rcases List.mem_cons.1 hkey with rfl | hkey
      · exact Or.inr hpath
      · exact Or.inl (List.mem_filter.1 hkey).1
    · rw [hfile r' hr']
      exact ⟨rfl, fun _ => List.mem_cons_self⟩
    · rcases hmode with rfl | rfl <;> cases hread
  | @read r _ failures hmode =>
    have hput := (h.holder i () _ r hi rfl).2 trivial
    refine h.step hi h.deleted (fun _ => id) (fun _ => Or.inl) (fun r' hr' => ?_) (Or.inl rfl)
      (fun _ => trivial) (fun r' avatarUrl hread => ?_) fun _ _ => Or.inl
    · rcases hmode with rfl | rfl
      · obtain rfl := Option.some.inj hr'
        exact ⟨rfl, fun _ => hput⟩
      · cases hr'
    · rcases hmode with rfl | rfl
      · cases hread
        exact h.before i () _ hi trivial
      · cases hread
  | @undeleted r avatarUrl failures =>
    have hput := (h.holder i () _ r hi rfl).2 trivial
    refine h.step hi h.deleted (fun _ => id) (fun _ => Or.inl) (fun r' hr' => ?_) (Or.inl rfl)
      (fun _ => trivial) (fun r' avatarUrl' hread => ?_) fun _ _ => Or.inl
    · obtain rfl := Option.some.inj hr'
      exact ⟨rfl, fun _ => hput⟩
    · cases hread
      exact h.read i () _ _ hi
  | @deleted r avatarUrl key failures hkey =>
    -- the avatar that the upload has read is the one before it, and that names no object
    have hpath := (h.holder i () _ r hi rfl).1
    have hnone := hlone.fresh (List.ne_nil_of_mem hpath)
    rw [h.read i () _ _ hi] at hkey
    exact absurd (hkey.symm.trans hnone) (by simp)
  | unset failures =>
    exact h.step hi h.deleted (fun _ => id) (fun _ => Or.inl) (fun _ hr => by cases hr)
      (Or.inl rfl) (fun hb => hb.elim) (fun _ _ hmode => by cases hmode) fun _ _ => Or.inl
  | @set r avatarUrl _ failures hmode =>
    have hput := (h.holder i () _ r hi rfl).2 trivial
    have hafter : ¬ mode'.BeforeUpdate := by
      rcases hmode with rfl | rfl <;> exact id
    refine h.step hi h.deleted (fun _ => id) (fun _ => Or.inl) (fun r' hr' => ?_)
      (Or.inr ⟨rfl, hafter⟩) (fun hb => absurd hb hafter) (fun r' avatarUrl' hread => ?_)
      fun _ _ => Or.inl
    · rcases hmode with rfl | rfl
      · obtain rfl := Option.some.inj hr'
        exact ⟨rfl, fun _ => hput⟩
      · cases hr'
    · rcases hmode with rfl | rfl <;> cases hread
  | @fetched r _ failures hmode =>
    have hput := (h.holder i () _ r hi rfl).2 trivial
    refine h.step hi h.deleted (fun _ => id) (fun _ => Or.inl) (fun r' hr' => ?_) (Or.inl rfl)
      (fun hb => ?_) (fun r' avatarUrl' hread => ?_) fun _ _ => Or.inl
    · rcases hmode with rfl | rfl
      · obtain rfl := Option.some.inj hr'
        exact ⟨rfl, fun _ => hput⟩
      · cases hr'
    · rcases hmode with rfl | rfl <;> exact hb.elim
    · rcases hmode with rfl | rfl <;> cases hread
  | answered number reply hreply =>
    refine h.step hi h.deleted (fun _ => id) (fun _ => Or.inl) (fun _ hr => by cases hr)
      (Or.inl rfl) (fun hb => hb.elim) (fun _ _ hmode => by cases hmode) fun j data hmem => ?_
    rcases List.mem_cons.1 hmem with heq | hmem
    · cases heq
      obtain ⟨r, rfl⟩ := hreply rfl
      exact Or.inr ⟨r, rfl, trivial⟩
    · exact Or.inl hmem

theorem Quiet.mono {w : AvatarWorld} {v v' : AvatarView} (hsub : ∀ i, v' i = none ∨ v' i = v i)
    (h : u.Quiet w v) : u.Quiet w v' := by
  have hin : ∀ {i l mode}, v' i = some (l, mode) → v i = some (l, mode) := by
    intro i l mode hi
    rcases hsub i with hnone | hsame
    · rw [hnone] at hi
      cases hi
    · rw [← hsame]
      exact hi
  exact ⟨h.deleted, h.objects, fun i l mode r hi => h.holder i l mode r (hin hi),
    fun i j l l' mode mode' hi hj => h.single i j l l' mode mode' (hin hi) (hin hj),
    fun i l mode hi => h.before i l mode (hin hi),
    fun i l r avatarUrl hi => h.read i l r avatarUrl (hin hi), h.replies⟩

theorem path_mem_keys {request : AvatarRequest} {r : UploadResult} (h : request ∈ u.requests)
    (haccepted : request.accepted u.publicUrlBase = some r) : r.path ∈ u.keys :=
  List.mem_map_of_mem (List.mem_filterMap.2 ⟨request, h, haccepted⟩)

/-- Two uploads put two objects. -/
theorem path_ne {i j : Nat} {request request' : AvatarRequest} {r r' : UploadResult}
    (hij : i < j) (hi : u.requests[i]? = some request) (hj : u.requests[j]? = some request')
    (hr : request.accepted u.publicUrlBase = some r)
    (hr' : request'.accepted u.publicUrlBase = some r') : r.path ≠ r'.path := by
  have hpairs := List.pairwise_filterMap.1 (List.pairwise_map.1 u.distinct)
  obtain ⟨hilt, rfl⟩ := List.getElem?_eq_some_iff.1 hi
  obtain ⟨hjlt, rfl⟩ := List.getElem?_eq_some_iff.1 hj
  exact List.pairwise_iff_getElem.1 hpairs i j hilt hjlt hij r hr r' hr'

theorem Lone.eq_of_mem (hlone : u.Lone) {key key' : String} (h : key ∈ u.keys)
    (h' : key' ∈ u.keys) : key = key' := by
  have hsingle := hlone.single
  cases hkeys : u.keys with
  | nil =>
    rw [hkeys] at h
    exact absurd h List.not_mem_nil
  | cons first rest =>
    rw [hkeys] at h h' hsingle
    have hrest : rest.length = 0 := by
      rw [List.length_cons] at hsingle
      omega
    obtain rfl := List.length_eq_zero_iff.1 hrest
    rw [List.mem_singleton.1 h, List.mem_singleton.1 h']

theorem Lone.eq_of_accepted (hlone : u.Lone) {i j : Nat} {request request' : AvatarRequest}
    {r r' : UploadResult} (hi : u.requests[i]? = some request)
    (hj : u.requests[j]? = some request') (hr : request.accepted u.publicUrlBase = some r)
    (hr' : request'.accepted u.publicUrlBase = some r') : i = j := by
  have hsame : r.path = r'.path :=
    hlone.eq_of_mem (path_mem_keys (List.mem_of_getElem? hi) hr)
      (path_mem_keys (List.mem_of_getElem? hj) hr')
  rcases Nat.lt_trichotomy i j with hlt | heq | hlt
  · exact absurd hsame (path_ne hlt hi hj hr hr')
  · exact heq
  · exact absurd hsame.symm (path_ne hlt hj hi hr' hr)

theorem Lone.quiet (hlone : u.Lone) {s : avatarSystem.State} (h : u.Reached s) :
    ∃ f, u.Quiet s.world (Discipline.view s f) := by
  refine h.invariant (fun w v v' hsub hinv => hinv.mono hsub)
    (fun w w' v i mode mode' hinv hi => hinv.act hlone hi) ?_
  refine ⟨rfl, fun key hkey => Or.inr (Option.mem_toList.1 hkey), fun i l mode r hi hr => ?_,
    fun i j l l' mode mode' hi hj hm hm' => ?_, fun _ _ _ _ _ => rfl,
    fun i l r avatarUrl hi => ?_, fun i data hmem => absurd hmem List.not_mem_nil⟩
  · obtain ⟨request, hrequest, rfl⟩ := view_start hi
    exact ⟨path_mem_keys (List.mem_of_getElem? hrequest) hr, fun hput => hput.elim⟩
  · obtain ⟨request, hrequest, rfl⟩ := view_start hi
    obtain ⟨request', hrequest', rfl⟩ := view_start hj
    obtain ⟨r, hr⟩ := Option.isSome_iff_exists.1 hm
    obtain ⟨r', hr'⟩ := Option.isSome_iff_exists.1 hm'
    exact hlone.eq_of_accepted hrequest hrequest' hr hr'
  · obtain ⟨request, -, hmode⟩ := view_start hi
    cases hmode

/-! ## Which uploads keep the avatar -/

/-- All uploads have returned success. -/
def AllSucceeded (u : AvatarUploads) (w : AvatarWorld) : Prop :=
  ∀ i < u.requests.length, ∃ data, (i, .ok data) ∈ w.replies

/-- In every run with at most one failing call the avatar never names an object that an upload
has deleted, and a deleted object was an avatar of the user; once all uploads have returned
success and no delete has failed, one of the objects of the uploads and of the avatar before
them is left. -/
structure AvatarsKept (u : AvatarUploads) : Prop where
  named : ∀ s, u.Reached s → s.world.failures.length ≤ 1 →
    ∀ key, u.keyOf s.world.user.avatarUrl = some key → key ∉ s.world.deleted
  owned : ∀ s, u.Reached s → s.world.failures.length ≤ 1 →
    ∀ key ∈ s.world.deleted, ∃ avatarUrl ∈ s.world.stored, u.keyOf avatarUrl = some key
  remains : u.requests ≠ [] → ∀ s, u.Reached s → s.world.failures.length ≤ 1 →
    u.AllSucceeded s.world → (∀ key, AvatarOp.delete key ∉ s.world.failures) →
      ∃! key, (key ∈ u.keys ∨ u.previous = some key) ∧ key ∈ s.world.objects

theorem Lone.avatarsKept (hlone : u.Lone) : u.AvatarsKept := by
  refine ⟨fun s hs _ key _ hdeleted => ?_, fun s hs _ key => deleted_was_stored hs,
    fun hne s hs _ hsucceeded _ => ?_⟩
  · obtain ⟨f, hquiet⟩ := hlone.quiet hs
    rw [hquiet.deleted] at hdeleted
    exact absurd hdeleted List.not_mem_nil
  · obtain ⟨f, hquiet⟩ := hlone.quiet hs
    obtain ⟨data, hdata⟩ := hsucceeded 0 (List.length_pos_of_ne_nil hne)
    obtain ⟨key, hkey, hobject⟩ := hquiet.replies 0 data hdata
    refine ⟨key, ⟨Or.inl hkey, hobject⟩, fun key' hkey' => ?_⟩
    rcases hkey'.1 with hmem | hprevious
    · exact hlone.eq_of_mem hmem hkey
    · rw [hlone.fresh (List.ne_nil_of_mem hkey)] at hprevious
      cases hprevious

/-! ### Runs without a failure -/

/-- A call of upload `i` leaves the other uploads where they are. -/
theorem Reached.exists_act {s : avatarSystem.State} (h : u.Reached s) {i : Nat} {o : AvatarOp}
    {k : o.Resp → Prog avatarOps Unit}
    (ht : s.tasks i = Pool.keep () (Prog.op (I := avatarOps) o k)) (fault : Fault) :
    ∃ s', u.Reached s' ∧ s'.world = (AvatarWorld.exec s.world o fault).2 ∧
      s'.tasks i = Pool.keep () (k (AvatarWorld.exec s.world o fault).1) ∧
      ∀ j, j ≠ i → s'.tasks j = s.tasks j :=
  Pool.Reach.exists_act h ht fault ⟨i, fault, rfl⟩

section NoFailure

variable {s : avatarSystem.State} {i : Nat} {r : UploadResult} {request : AvatarRequest}

/-- An accepted upload reaches the read of the row. -/
theorem Reached.exists_read (h : u.Reached s) (hr : request.accepted u.publicUrlBase = some r)
    (ht : s.tasks i = Pool.keep () (request.prog u.publicUrlBase i)) :
    ∃ s', u.Reached s' ∧ s'.world.failures = s.world.failures ∧
      s'.world.user = s.world.user ∧
      s'.tasks i = Pool.keep () (afterRead u.publicUrlBase i r s.world.user) ∧
      ∀ j, j ≠ i → s'.tasks j = s.tasks j := by
  obtain ⟨k, hprog, hok, -⟩ := prog_of_accepted i hr
  rw [hprog] at ht
  obtain ⟨s₁, hs₁, hworld₁, htask₁, hothers₁⟩ := h.exists_act ht .none
  have hafter : s₁.tasks i = Pool.keep () (afterPut u.publicUrlBase i r) :=
    htask₁.trans (congrArg (Pool.keep (P := avatarSystem) ()) hok)
  obtain ⟨s₂, hs₂, hworld₂, htask₂, hothers₂⟩ := hs₁.exists_act hafter .none
  have huser : s₁.world.user = s.world.user := by
    rw [hworld₁]
    rfl
  refine ⟨s₂, hs₂, ?_, ?_, ?_, fun j hj => (hothers₂ j hj).trans (hothers₁ j hj)⟩
  · rw [hworld₂, hworld₁]
    rfl
  · rw [hworld₂, hworld₁]
    rfl
  · rw [htask₂, ← huser]
    rfl

/-- Where the avatar names an object, an upload can delete it before the row names another. -/
theorem Reached.exists_deleted (h : u.Reached s)
    (hr : request.accepted u.publicUrlBase = some r)
    (ht : s.tasks i = Pool.keep () (request.prog u.publicUrlBase i)) {key : String}
    (hkey : u.keyOf s.world.user.avatarUrl = some key) :
    ∃ s', u.Reached s' ∧ s'.world.failures = s.world.failures ∧
      u.keyOf s'.world.user.avatarUrl = some key ∧ key ∈ s'.world.deleted := by
  obtain ⟨s₁, hs₁, hfailures, huser, htask, -⟩ := h.exists_read hr ht
  have hdelete : afterRead u.publicUrlBase i r s.world.user =
      .op (.delete key) fun _ => afterDelete i r := by
    unfold afterRead
    unfold keyOf at hkey
    rw [hkey]
  rw [hdelete] at htask
  obtain ⟨s₂, hs₂, hworld₂, -, -⟩ := hs₁.exists_act htask .none
  refine ⟨s₂, hs₂, ?_, ?_, ?_⟩
  · rw [hworld₂, ← hfailures]
    rfl
  · rw [hworld₂, ← hkey, ← huser]
    rfl
  · rw [hworld₂]
    exact List.mem_cons_self

/-- Where the avatar names no object, an upload can make it name its own. -/
theorem Reached.exists_updated (h : u.Reached s)
    (hr : request.accepted u.publicUrlBase = some r)
    (ht : s.tasks i = Pool.keep () (request.prog u.publicUrlBase i))
    (hkey : u.keyOf s.world.user.avatarUrl = none) :
    ∃ s', u.Reached s' ∧ s'.world.failures = s.world.failures ∧
      u.keyOf s'.world.user.avatarUrl = some r.path ∧ ∀ j, j ≠ i → s'.tasks j = s.tasks j := by
  obtain ⟨s₁, hs₁, hfailures, -, htask, hothers⟩ := h.exists_read hr ht
  have hupdate : afterRead u.publicUrlBase i r s.world.user = afterDelete i r := by
    unfold afterRead
    unfold keyOf at hkey
    rw [hkey]
  rw [hupdate] at htask
  obtain ⟨s₂, hs₂, hworld₂, -, hothers₂⟩ := hs₁.exists_act htask .none
  obtain ⟨file, -, hup⟩ := accepted_eq_some hr
  refine ⟨s₂, hs₂, ?_, ?_, fun j hj => (hothers₂ j hj).trans (hothers j hj)⟩
  · rw [hworld₂, ← hfailures]
    rfl
  · have havatar : s₂.world.user.avatarUrl = some r.publicUrl := by
      rw [hworld₂]
      rfl
    unfold keyOf
    rw [havatar, Option.bind_some]
    exact extractObjectKey_of_upload hup

end NoFailure

theorem exists_request {key : String} (h : key ∈ u.keys) :
    ∃ (i : Nat) (request : AvatarRequest) (r : UploadResult), u.requests[i]? = some request ∧
      request.accepted u.publicUrlBase = some r ∧ r.path = key := by
  obtain ⟨r, hr, hpath⟩ := List.mem_map.1 h
  obtain ⟨request, hrequest, haccepted⟩ := List.mem_filterMap.1 hr
  obtain ⟨i, hi⟩ := List.mem_iff_getElem?.1 hrequest
  exact ⟨i, request, r, hi, haccepted, hpath⟩

theorem start_tasks {i : Nat} {request : AvatarRequest} (h : u.requests[i]? = some request) :
    u.start.tasks i = Pool.keep () (request.prog u.publicUrlBase i) := by
  change (u.requests[i]?.bind _) = _
  rw [h]
  rfl

/-- The uploads keep the avatar only where they are lone. -/
theorem AvatarsKept.lone (h : u.AvatarsKept) : u.Lone := by
  have hno : ∀ s, u.Reached s → s.world.failures = [] →
      ∀ (i : Nat) (request : AvatarRequest) (r : UploadResult),
      request.accepted u.publicUrlBase = some r →
        s.tasks i = Pool.keep () (request.prog u.publicUrlBase i) →
          u.keyOf s.world.user.avatarUrl = none := by
    intro s hs hfailures i request r hr ht
    by_contra hkey
    obtain ⟨key, hkey⟩ := Option.ne_none_iff_exists'.1 hkey
    obtain ⟨s', hs', hfailures', hnamed, hdeleted⟩ := hs.exists_deleted hr ht hkey
    refine h.named s' hs' ?_ key hnamed hdeleted
    rw [hfailures', hfailures]
    exact Nat.zero_le _
  have hstart : u.Reached u.start := Relation.ReflTransGen.refl
  refine ⟨?_, fun hne => ?_⟩
  · by_contra hlength
    obtain ⟨first, second, hfirst, hsecond, hne⟩ :
        ∃ first second, first ∈ u.keys ∧ second ∈ u.keys ∧ first ≠ second := by
      have hnodup : u.keys.Nodup := u.distinct
      cases hkeys : u.keys with
      | nil => exact absurd (by rw [hkeys]; exact Nat.zero_le _) hlength
      | cons first rest =>
        cases rest with
        | nil => exact absurd (by rw [hkeys]; exact Nat.le_refl _) hlength
        | cons second rest =>
          rw [hkeys] at hnodup
          refine ⟨first, second, List.mem_cons_self,
            List.mem_cons_of_mem _ List.mem_cons_self, fun heq => ?_⟩
          exact (List.nodup_cons.1 hnodup).1 (heq ▸ List.mem_cons_self)
    obtain ⟨i, request, r, hi, hr, rfl⟩ := exists_request hfirst
    obtain ⟨j, request', r', hj, hr', rfl⟩ := exists_request hsecond
    have hij : j ≠ i := by
      rintro rfl
      obtain rfl := Option.some.inj (hi.symm.trans hj)
      exact hne (congrArg UploadResult.path (Option.some.inj (hr.symm.trans hr')))
    have hbefore := hno u.start hstart rfl i request r hr (start_tasks hi)
    obtain ⟨s, hs, hfailures, hnamed, hothers⟩ := hstart.exists_updated hr (start_tasks hi) hbefore
    have hnone := hno s hs hfailures j request' r' hr' ((hothers j hij).trans (start_tasks hj))
    rw [hnone] at hnamed
    cases hnamed
  · obtain ⟨key, hkey⟩ := List.exists_mem_of_ne_nil _ hne
    obtain ⟨i, request, r, hi, hr, -⟩ := exists_request hkey
    exact hno u.start hstart rfl i request r hr (start_tasks hi)

/-- The avatar of a user never names a deleted object and nothing is left over exactly when at
most one upload has a file that is stored, and then the avatar before it is not under the public
base. -/
theorem avatarsKept_iff (u : AvatarUploads) :
    u.AvatarsKept ↔ u.keys.length ≤ 1 ∧ (u.keys ≠ [] → u.previous = none) := by
  constructor
  · intro h
    exact ⟨h.lone.single, h.lone.fresh⟩
  · rintro ⟨hsingle, hfresh⟩
    exact Lone.avatarsKept ⟨hsingle, hfresh⟩

/-! ### Two runs -/

instance callDecidable (a : Pool.Action (P := avatarSystem)) :
    Decidable (∃ i fault, a = Pool.Action.act i fault) :=
  match a with
  | .act i fault => isTrue ⟨i, fault, rfl⟩
  | .arrive arrival => arrival.elim
  | .crash _ => isFalse (by rintro ⟨i, fault, h⟩; cases h)

/-- A user with an avatar. -/
def budi (avatarUrl : Option String) : User where
  id := 7
  name := "Budi"
  email := "budi@klass.id"
  password := ""
  avatarUrl := avatarUrl
  role := "teacher"

/-- The upload of a small picture. -/
def picture (filename : String) : AvatarRequest where
  multipart := [.ok { name := some "file", contentType := some "image/png", data := .ok [137] }]
  filename := filename

/-- One upload over an avatar. -/
def replacing : AvatarUploads where
  publicUrlBase := "https://cdn.klass.id"
  user := budi (some "https://cdn.klass.id/avatars/old.png")
  requests := [picture "5f3a9c1e_1783000000000_file"]
  distinct := by decide +kernel
  fresh := by decide +kernel

/-- Two uploads beside each other. -/
def overlapping : AvatarUploads where
  publicUrlBase := "https://cdn.klass.id"
  user := budi none
  requests := [picture "5f3a9c1e_1783000000000_file", picture "c27b0d44_1783000000001_file"]
  distinct := by decide +kernel
  fresh := by decide +kernel

/-- What is left at the end of a run. -/
def left (s : avatarSystem.State) :
    Option String × List String × List String × Nat × List (Nat × Bool) :=
  (s.world.user.avatarUrl, s.world.objects, s.world.deleted, s.world.failures.length,
    s.world.replies.map fun reply => (reply.1, reply.2.isOk))

/-- Calls that all succeed, by the uploads that make them. -/
def calls (uploads : List Nat) : List (Pool.Action (P := avatarSystem)) :=
  uploads.map fun i => .act i Fault.none

/-- A concrete run. -/
theorem exists_left (u : AvatarUploads) (actions : List (Pool.Action (P := avatarSystem))) {x}
    (h : (Pool.play (fun _ a => ∃ i fault, a = Pool.Action.act i fault) u.start actions).map left =
      some x) : ∃ s, u.Reached s ∧ left s = x :=
  Pool.exists_of_play h

theorem exists_ok_of_mem {w : AvatarWorld} {i : Nat}
    (h : (i, true) ∈ w.replies.map fun reply => (reply.1, reply.2.isOk)) :
    ∃ data, (i, .ok data) ∈ w.replies := by
  obtain ⟨reply, hmem, heq⟩ := List.mem_map.1 h
  obtain ⟨number, answer⟩ := reply
  obtain rfl : number = i := congrArg Prod.fst heq
  cases answer with
  | ok data => exact ⟨data, hmem⟩
  | error e => cases congrArg Prod.snd heq

/-- Where the update of the row fails, the avatar names the deleted object from then on. -/
theorem exists_dangling : ∃ s, replacing.Reached s ∧ left s =
    (some "https://cdn.klass.id/avatars/old.png",
      ["avatars/5f3a9c1e_1783000000000_file.png"], ["avatars/old.png"], 1, [(0, false)]) :=
  exists_left replacing
    (calls [0, 0, 0] ++ .act 0 (Fault.failed "connection closed") :: calls [0]) (by rfl)

/-- Of two uploads that both read the row before one updates it the first leaves its object. -/
theorem exists_leak : ∃ s, overlapping.Reached s ∧ left s =
    (some "https://cdn.klass.id/avatars/c27b0d44_1783000000001_file.png",
      ["avatars/c27b0d44_1783000000001_file.png", "avatars/5f3a9c1e_1783000000000_file.png"],
      [], 0, [(1, true), (0, true)]) :=
  exists_left overlapping (calls [0, 1, 0, 1, 0, 1, 0, 1, 0, 1]) (by rfl)

/-- One upload over an avatar can leave it dangling, and two beside each other can leave both
their objects. -/
theorem dangles_and_leaks : ¬ replacing.AvatarsKept ∧ ¬ overlapping.AvatarsKept := by
  constructor
  · intro h
    obtain ⟨s, hs, hleft⟩ := exists_dangling
    obtain ⟨havatar, -, hdeleted, hfailures, -⟩ :
        s.world.user.avatarUrl = _ ∧ s.world.objects = _ ∧ s.world.deleted = _ ∧
          s.world.failures.length = _ ∧ _ := by simpa only [left, Prod.mk.injEq] using hleft
    refine h.named s hs (Nat.le_of_eq hfailures) "avatars/old.png" ?_ ?_
    · rw [havatar]
      decide +kernel
    · rw [hdeleted]
      exact List.mem_cons_self
  · intro h
    obtain ⟨s, hs, hleft⟩ := exists_leak
    obtain ⟨-, hobjects, -, hfailures, hreplies⟩ :
        s.world.user.avatarUrl = _ ∧ s.world.objects = _ ∧ s.world.deleted = _ ∧
          s.world.failures.length = _ ∧ _ := by simpa only [left, Prod.mk.injEq] using hleft
    have hsucceeded : overlapping.AllSucceeded s.world := by
      intro i hi
      refine exists_ok_of_mem ?_
      rw [hreplies]
      have hcases : i = 0 ∨ i = 1 := by
        change i < 2 at hi
        omega
      rcases hcases with rfl | rfl <;> decide
    obtain ⟨key, -, hunique⟩ := h.remains (by simp [overlapping]) s hs (by omega) hsucceeded
      fun key hkey => by rw [List.length_eq_zero_iff.1 hfailures] at hkey; cases hkey
    have hfirst := hunique "avatars/5f3a9c1e_1783000000000_file.png"
      ⟨Or.inl (by decide +kernel), by rw [hobjects]; decide⟩
    have hsecond := hunique "avatars/c27b0d44_1783000000001_file.png"
      ⟨Or.inl (by decide +kernel), by rw [hobjects]; decide⟩
    exact absurd (hfirst.trans hsecond.symm) (by decide)

end AvatarUploads

end KlassGateway.Api
