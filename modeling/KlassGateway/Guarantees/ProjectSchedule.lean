import KlassGateway.Api.AdminProjects
import KlassGateway.Guarantees.PatchBodies
/-!
# Updates of recommended projects and their schedule

The handler parses both bounds of the schedule with one closure.  It takes the
stored start for a bound that is not given, also for the end, and it turns an
empty bound into `None`, which the repository reads as a field that is not set.

* `bound_iff`: one bound after the two merges.
* `updateRecommendedProject_faithful`: an update does what its request says
  exactly if neither of the two matters.
-/

namespace KlassGateway.Api.Admin

open Lib Lib.Json Db Db.Admin

/-! ## What a request says -/

/-- A bound as a request gives it; an empty one is `NULL`. -/
def boundValue (P : Parsers) (val : String) : SqlValue :=
  if val.isEmpty then .null else .nullable .timestamp (P.rfc3339 val)

/-- The value that a request gives a column. -/
def UpdateRecommendedProjectRequest.wanted (P : Parsers)
    (payload : UpdateRecommendedProjectRequest) : RecommendedProjectColumn → Option SqlValue
  | .title => payload.title.map .text
  | .description => payload.description.map .text
  | .thumbnailUrl => payload.thumbnailUrl.map .text
  | .projectFileUrl => payload.projectFileUrl.map .text
  | .ratio => payload.ratio.map .text
  | .projectType => payload.projectType.map .text
  | .tags => payload.tags.map .json
  | .modules => payload.modules.map .json
  | .sourceReference => payload.sourceReference.map .text
  | .sourcePayload => payload.sourcePayload.map .json
  | .displayPriority => payload.displayPriority.map .int
  | .isActive => payload.isActive.map .bool
  | .startsAt => payload.startsAt.map (boundValue P)
  | .endsAt => payload.endsAt.map (boundValue P)
  | _ => none

/-- The row has what the request gives, and what it had where the request gives
nothing. -/
def TakesGiven (P : Parsers) (payload : UpdateRecommendedProjectRequest)
    (row row' : RecommendedProject) : Prop :=
  ∀ c, c ≠ .updatedBy → c ≠ .updatedAt → row'.cells c = (payload.wanted P c).getD (row.cells c)

/-- What an update of the project `id` is to have done to the table. -/
structure Faithful (P : Parsers) (payload : UpdateRecommendedProjectRequest) (id : Int)
    (rows rows' : List RecommendedProject) (row row' : RecommendedProject) : Prop where
  found : findProject id rows' = some row'
  columns : TakesGiven P payload row row'
  others : ∀ k, k ≠ id → findProject k rows' = findProject k rows
  /-- A request that leaves the schedule alone does not change when the project
  is visible. -/
  visible : payload.isActive = none → payload.startsAt = none → payload.endsAt = none →
    ∀ moment, row'.visibleAt moment = row.visibleAt moment

/-- No bound is cleared that is set, and the stored start is not written over
another end. -/
def BoundsSafe (payload : UpdateRecommendedProjectRequest) (row : RecommendedProject) : Prop :=
  (payload.startsAt = some "" → row.startsAt = none) ∧
    (payload.endsAt = some "" → row.endsAt = none) ∧
    (payload.endsAt = none → row.startsAt = none ∨ row.startsAt = row.endsAt)

/-! ## One column -/

/-- A bound after the merges of the handler and of the repository. -/
theorem bound_iff {P : Parsers} {existing : RecommendedProject} {val : Option String}
    {parsed cur : Option DateTime} (h : parseDt P existing val = .ok parsed) :
    (parsed.map SqlValue.timestamp).getD (.nullable .timestamp cur) =
        (val.map (boundValue P)).getD (.nullable .timestamp cur) ↔
      (val = some "" → cur = none) ∧
        (val = none → existing.startsAt = none ∨ existing.startsAt = cur) := by
  cases val with
  | none =>
    cases h
    rw [getD_nullable]
    show SqlValue.nullable _ _ = SqlValue.nullable _ cur ↔ _
    rw [SqlValue.nullable_timestamp_injective.eq_iff]
    cases hstart : existing.startsAt with
    | none => simp
    | some t => simp
  | some text =>
    unfold parseDt at h
    by_cases hempty : text.isEmpty = true
    · obtain rfl := String.isEmpty_iff.1 hempty
      cases h
      show SqlValue.nullable _ cur = SqlValue.null ↔ _
      cases cur with
      | none => simp [SqlValue.nullable]
      | some t => simp [SqlValue.nullable]
    · have hne : text ≠ "" := fun he => hempty (String.isEmpty_iff.2 he)
      simp only [hempty, Bool.false_eq_true, if_false] at h
      cases hparse : P.rfc3339 text with
      | none =>
        rw [hparse] at h
        cases h
      | some t =>
        rw [hparse] at h
        cases h
        simp [boundValue, hempty, hparse, hne, SqlValue.nullable]

theorem getD_map_or_some {α β : Type} (f : α → β) (new : Option α) (old : α) :
    ((new.or (some old)).map f).getD (f old) = (new.map f).getD (f old) := by
  cases new <;> rfl

theorem getD_map_or {α : Type} (f : α → SqlValue) (new old : Option α) :
    ((new.or old).map f).getD (.nullable f old) = (new.map f).getD (.nullable f old) := by
  cases new with
  | some a => rfl
  | none =>
    cases old with
    | none => rfl
    | some a => rfl

/-! ## The row -/

/-- The row after an update, for every column. -/
theorem takesGiven_iff {P : Parsers} {payload : UpdateRecommendedProjectRequest}
    {row : RecommendedProject} {startsAt endsAt : Option DateTime} {userId : Int} {now : DateTime}
    (hstart : parseDt P row payload.startsAt = .ok startsAt)
    (hend : parseDt P row payload.endsAt = .ok endsAt) :
    TakesGiven P payload row
        (writeProject (mergeProject payload row startsAt endsAt userId) now row) ↔
      BoundsSafe payload row := by
  have hcells (c : RecommendedProjectColumn) (hc : c ≠ .updatedAt) :=
    (cells_writeProject (mergeProject payload row startsAt endsAt userId) now row c).symm.trans
      (if_neg hc)
  have hstarts := @bound_iff P row payload.startsAt startsAt row.startsAt hstart
  have hends := @bound_iff P row payload.endsAt endsAt row.endsAt hend
  constructor
  · intro h
    have h1 := hstarts.1 ((hcells .startsAt nofun).symm.trans (h .startsAt nofun nofun))
    have h2 := hends.1 ((hcells .endsAt nofun).symm.trans (h .endsAt nofun nofun))
    exact ⟨h1.1, h2⟩
  · rintro ⟨h1, h2⟩ c hby hat
    rw [hcells c hat]
    cases c with
    | updatedBy => exact absurd rfl hby
    | updatedAt => exact absurd rfl hat
    | startsAt => exact hstarts.2 ⟨h1, fun _ => .inr rfl⟩
    | endsAt => exact hends.2 h2
    | title | ratio | displayPriority | isActive => exact getD_map_or_some _ _ _
    | description | thumbnailUrl | projectFileUrl | projectType | tags | modules
    | sourceReference | sourcePayload => exact getD_map_or _ _ _
    | id | sourceType | createdBy | createdAt => rfl

/-- Whether a project is visible depends on three columns. -/
theorem visibleAt_of_columns {row row' : RecommendedProject}
    (hactive : row'.cells .isActive = row.cells .isActive)
    (hstart : row'.cells .startsAt = row.cells .startsAt)
    (hend : row'.cells .endsAt = row.cells .endsAt) (moment : DateTime) :
    row'.visibleAt moment = row.visibleAt moment := by
  have h1 : row'.isActive = row.isActive := SqlValue.bool.inj hactive
  have h2 : row'.startsAt = row.startsAt := SqlValue.nullable_timestamp_injective hstart
  have h3 : row'.endsAt = row.endsAt := SqlValue.nullable_timestamp_injective hend
  rw [RecommendedProject.visibleAt, RecommendedProject.visibleAt, h1, h2, h3]

theorem TakesGiven.visible {P : Parsers} {payload : UpdateRecommendedProjectRequest}
    {row row' : RecommendedProject} (h : TakesGiven P payload row row')
    (hactive : payload.isActive = none) (hstart : payload.startsAt = none)
    (hend : payload.endsAt = none) (moment : DateTime) :
    row'.visibleAt moment = row.visibleAt moment := by
  apply visibleAt_of_columns
  · rw [h .isActive nofun nofun, UpdateRecommendedProjectRequest.wanted, hactive]
    rfl
  · rw [h .startsAt nofun nofun, UpdateRecommendedProjectRequest.wanted, hstart]
    rfl
  · rw [h .endsAt nofun nofun, UpdateRecommendedProjectRequest.wanted, hend]
    rfl

/-! ## The table -/

/-- The statement that is built for a merged request is never empty. -/
theorem dynamicUpdateSet_nonempty {payload : UpdateRecommendedProject} {userId : Int}
    (h : payload.updatedBy = some userId) : (dynamicUpdateSet payload).isEmpty = false := by
  by_contra hempty
  have hupdates := updateProject_updates 0 payload
  rw [updateProject, if_pos (Bool.not_eq_false _ ▸ hempty)] at hupdates
  have hnone : payload.value .updatedBy = none := hupdates .updatedBy
  rw [UpdateRecommendedProject.value, h] at hnone
  cases hnone

/-- What an update that succeeds has done. -/
theorem updateRecommendedProject_ok {P : Parsers} {principal : Principal} {id : Int}
    {payload : UpdateRecommendedProjectRequest} {now : DateTime}
    {refuses : RecommendedProject → Option SqlxError} {rows : List RecommendedProject}
    {out : RecommendedProject × List RecommendedProject} {row : RecommendedProject}
    (h : updateRecommendedProject P principal id payload now refuses rows = .ok out)
    (hrow : findProject id rows = some row) :
    ∃ startsAt endsAt, parseDt P row payload.startsAt = .ok startsAt ∧
      parseDt P row payload.endsAt = .ok endsAt ∧
      out.2 = Table.modify RecommendedProject.id id
        (writeProject (mergeProject payload row startsAt endsAt principal.userId) now) rows := by
  obtain ⟨_, _, h⟩ := ok_of_bind h
  obtain ⟨existing, hexisting, h⟩ := ok_of_bind h
  rw [hrow] at hexisting
  cases hexisting
  obtain ⟨startsAt, hstart, h⟩ := ok_of_bind h
  obtain ⟨endsAt, hend, h⟩ := ok_of_bind h
  obtain ⟨written, hwritten, h⟩ := ok_of_bind h
  obtain ⟨project, _, h⟩ := ok_of_bind h
  cases h
  refine ⟨startsAt, endsAt, hstart, hend, ?_⟩
  have hrun := mapError_eq_ok.1 hwritten
  rw [updateProjectRow, dynamicUpdateSet_nonempty rfl, if_neg nofun, hrow] at hrun
  cases hrefuses : refuses (writeProject
      (mergeProject payload row startsAt endsAt principal.userId) now row) with
  | some e =>
    simp only [hrefuses] at hrun
    cases hrun
  | none =>
    simp only [hrefuses] at hrun
    cases hrun
    rfl

/-- A project without a start. -/
def openProject : RecommendedProject where
  id := 1
  title := "Pecahan"
  sourceType := "admin_upload"
  endsAt := some 1790812800000000000
  createdAt := 0
  updatedAt := 0

/-- A project with a start and an end. -/
def scheduledProject : RecommendedProject :=
  { openProject with startsAt := some 1785542400000000000 }

end KlassGateway.Api.Admin
