import KlassGateway.Api.AdminUpdates
import KlassGateway.Lib.Results
/-!
# The three states of a nullable field

The payload types of the admin API tell a field that is not given from one that
is `NULL`.  A body cannot: `Option<Option<T>>` reads a JSON `null` as the outer
`None`, so that the column keeps what it has.

* `reads_of_optional`: what a request knows of a nullable field.
* `honoured_iff`: a field after the merge.
* `patches_honoured`: for the four endpoints, a body means what its fields say
  exactly if every field that is `null` is so in the row already.
-/

namespace KlassGateway.Api.Admin

open Lib Lib.Json Db Db.Admin SqlValue

/-! ## Fields -/

/-- A nullable field of a body: its name, what its value stands for, and its
column. -/
structure NullableField (R : Type) where
  name : String
  value : Json → Option SqlValue
  col : R → SqlValue

/-- What a body with these field names gives for a field. -/
def given (names : List String) (body : Json) (name : String) : Option Json :=
  (fieldsOfText names names.length body).bind (lookup name)

/-- The three states of a field: not there, `null`, or a value. -/
def NullableField.Honoured {R : Type} (f : NullableField R) (given : Option Json)
    (row row' : R) : Prop :=
  match given with
  | none => f.col row' = f.col row
  | some .null => f.col row' = .null
  | some v => f.value v = some (f.col row')

/-- In the table after an update, the row has what the body gives. -/
def Honours {R : Type} (fields : List (NullableField R)) (given : String → Option Json)
    (key : R → Uuid) (id : Uuid) (row : R) (rows' : List R) : Prop :=
  ∃ row', Table.find key id rows' = some row' ∧
    ∀ f ∈ fields, f.Honoured (given f.name) row row'

/-- Every field that is given as `null` is `NULL` in the row. -/
def NullAlready {R : Type} (fields : List (NullableField R)) (given : String → Option Json)
    (row : R) : Prop :=
  ∀ f ∈ fields, given f.name = some .null → f.col row = .null

/-- A field of type `Option<Option<T>>` in a request. -/
def Reads {α : Type} (d : Decoder α) (given : Option Json) (o : Option (Option α)) : Prop :=
  match given with
  | none => o = none
  | some .null => o = none
  | some v => ∃ a, d v = some a ∧ o = some (some a)

theorem reads_of_optional {α : Type} {d : Decoder α} {name : String}
    {fields : List (String × Json)} {o : Option (Option α)}
    (h : optional name (nullable d) (obj fields) = some o) : Reads d (lookup name fields) o := by
  unfold optional fieldOr at h
  rw [get_obj] at h
  unfold Reads
  cases hgiven : lookup name fields with
  | none =>
    rw [hgiven] at h
    exact (Option.some.inj h).symm
  | some v =>
    rw [hgiven] at h
    cases v with
    | null => exact (Option.some.inj h).symm
    | bool _ | num _ | str _ | arr _ | obj _ =>
      obtain ⟨o', ho', rfl⟩ := Option.map_eq_some_iff.1 h
      obtain ⟨a, ha, rfl⟩ := Option.map_eq_some_iff.1 ho'
      exact ⟨a, ha, rfl⟩

/-- A field after the merge with what the row had. -/
theorem honoured_iff {R α : Type} {f : NullableField R} {d : Decoder α} {g : α → SqlValue}
    {given : Option Json} {o : Option (Option α)} {cur : Option α} {row row' : R}
    (hreads : Reads d given o) (hvalue : ∀ v, f.value v = (d v).map g)
    (hrow : f.col row = nullable g cur) (hrow' : f.col row' = nullable g (o.getD cur)) :
    f.Honoured given row row' ↔ (given = some .null → f.col row = .null) := by
  unfold NullableField.Honoured
  unfold Reads at hreads
  cases given with
  | none =>
    rw [hrow, hrow', hreads]
    simp
  | some v =>
    cases v with
    | null =>
      rw [hrow, hrow', hreads]
      simp
    | bool _ | num _ | str _ | arr _ | obj _ =>
      obtain ⟨a, ha, rfl⟩ := hreads
      simp only [hvalue, ha, hrow']
      exact iff_of_true rfl nofun

/-- A body that was read. -/
theorem readBody_ok {α : Type} {names : List String} {d : Decoder α} {body : Json} {a : α}
    (h : readBody names d body = .ok a) :
    ∃ fields, fieldsOfText names names.length body = some fields ∧ d (obj fields) = some a := by
  unfold readBody at h
  cases hread : textRecord names names.length d body with
  | none =>
    rw [hread] at h
    cases h
  | some b =>
    rw [hread] at h
    cases h
    exact Option.bind_eq_some_iff.1 hread

/-- An update of a row whose fields are merged. -/
theorem honours_iff {R P : Type} {key : R → Uuid} {write : P → R → DateTime → R → R}
    {missing failed : String} {refuses : R → Option SqlxError} {id : Uuid} {payload : P}
    {now : DateTime} {rows : List R} {row : R} {out : R × List R}
    {fields : List (NullableField R)} {given : String → Option Json}
    {ok : NullableField R → Prop} (hkey : ∀ r, key (write payload row now r) = key r)
    (h : Db.Admin.updateRow key write missing failed refuses id payload now rows = .ok out)
    (hrow : Table.find key id rows = some row)
    (hfields : ∀ f ∈ fields, f.Honoured (given f.name) row (write payload row now row) ↔ ok f) :
    Honours fields given key id row out.2 ↔ ∀ f ∈ fields, ok f := by
  obtain ⟨current, hfind, _, rfl⟩ := updateRow_ok h
  obtain rfl : row = current := Option.some.inj (hrow.symm.trans hfind)
  have hfind' : Table.find key id (Table.modify key id (write payload row now) rows) =
      some (write payload row now row) := by
    rw [Table.find_modify_self fun r hr => (hkey r).trans hr, hrow]
    rfl
  constructor
  · rintro ⟨row', hrow', hall⟩ f hf
    obtain rfl : _ = row' := Option.some.inj (hfind'.symm.trans hrow')
    exact (hfields f hf).1 (hall f hf)
  · intro hnull
    exact ⟨_, hfind', fun f hf => (hfields f hf).2 (hnull f hf)⟩

/-! ## The four endpoints -/

/-- The nullable fields of `UpdateTopicRequest`. -/
def topicFields : List (NullableField Topic) :=
  [⟨"sub_subject_id", fun v => (i64 v).map .int, fun t => .nullable .int t.subSubjectId⟩,
    ⟨"thumbnail_url", fun v => (asStr v).map .text, fun t => .nullable .text t.thumbnailUrl⟩]

/-- The nullable fields of `UpdateContentRequest`. -/
def contentFields : List (NullableField Content) :=
  [⟨"title", fun v => (asStr v).map .text, fun c => .nullable .text c.title⟩,
    ⟨"data", fun v => (asValue v).map .json, fun c => .nullable .json c.data⟩,
    ⟨"media_url", fun v => (asStr v).map .text, fun c => .nullable .text c.mediaUrl⟩]

/-- The nullable fields of `UpdateMarketplaceTaskRequest`. -/
def taskFields (P : Parsers) : List (NullableField MarketplaceTask) :=
  [⟨"description", fun v => (asStr v).map .text, fun t => .nullable .text t.description⟩,
    ⟨"creator_id", fun v => (asStr v).map .text, fun t => .nullable .text t.creatorId⟩,
    ⟨"suggested_freelancer_id", fun v => (i64 v).map .int,
      fun t => .nullable .int t.suggestedFreelancerId⟩,
    ⟨"attachment_url", fun v => (asStr v).map .text, fun t => .nullable .text t.attachmentUrl⟩,
    ⟨"media_generation_id", fun v => (asUuid P v).map .uuid,
      fun t => .nullable .uuid t.mediaGenerationId⟩]

/-- A completion date in a body. -/
def asDate (P : Parsers) : Decoder DateTime := fun v => (asStr v).bind P.rfc3339

/-- The nullable fields of `UpdateStudentProgressRequest` that its documentation
is about. -/
def progressFields (P : Parsers) : List (NullableField StudentProgress) :=
  [⟨"completion_date", fun v => (asDate P v).map .timestamp,
    fun r => .nullable .timestamp r.completionDate⟩]

variable {P : Parsers} {principal : Principal} {id : Uuid} {body : Json} {now : DateTime}

theorem updateTopic_honours {refuses : Topic → Option SqlxError} {rows : List Topic}
    {out : Topic × List Topic} {row : Topic}
    (h : updateTopic principal id body now refuses rows = .ok out)
    (hrow : Table.find Topic.id id rows = some row) :
    Honours topicFields (given UpdateTopicRequest.names body) Topic.id id row out.2 ↔
      NullAlready topicFields (given UpdateTopicRequest.names body) row := by
  obtain ⟨request, hbody, h⟩ := ok_of_bind h
  obtain ⟨_, _, h⟩ := ok_of_bind h
  obtain ⟨fields, hfields, hrequest⟩ := readBody_ok hbody
  have hgiven (name : String) : given UpdateTopicRequest.names body name = lookup name fields := by
    rw [given, hfields]
    rfl
  simp only [UpdateTopicRequest.decode, Option.bind_eq_bind, Option.bind_eq_some_iff,
    Option.pure_def, Option.some.injEq] at hrequest
  obtain ⟨title, _, subSubjectId, hsub, thumbnailUrl, hthumbnail, rfl⟩ := hrequest
  refine honours_iff (fun _ => rfl) (mapError_eq_ok.1 h) hrow ?_
  simp only [topicFields, List.forall_mem_cons, hgiven]
  refine ⟨?_, ?_, nofun⟩
  · exact honoured_iff (reads_of_optional hsub) (fun _ => rfl) rfl rfl
  · exact honoured_iff (reads_of_optional hthumbnail) (fun _ => rfl) rfl rfl

theorem updateContent_honours {refuses : Content → Option SqlxError} {rows : List Content}
    {out : Content × List Content} {row : Content}
    (h : updateContent P principal id body now refuses rows = .ok out)
    (hrow : Table.find Content.id id rows = some row) :
    Honours contentFields (given UpdateContentRequest.names body) Content.id id row out.2 ↔
      NullAlready contentFields (given UpdateContentRequest.names body) row := by
  obtain ⟨request, hbody, h⟩ := ok_of_bind h
  obtain ⟨_, _, h⟩ := ok_of_bind h
  obtain ⟨_, _, h⟩ := ok_of_bind h
  obtain ⟨fields, hfields, hrequest⟩ := readBody_ok hbody
  have hgiven (name : String) :
      given UpdateContentRequest.names body name = lookup name fields := by
    rw [given, hfields]
    rfl
  simp only [UpdateContentRequest.decode, Option.bind_eq_bind, Option.bind_eq_some_iff,
    Option.pure_def, Option.some.injEq] at hrequest
  obtain ⟨topicId, _, contentType, _, title, htitle, data, hdata, mediaUrl, hmedia, rfl⟩ :=
    hrequest
  refine honours_iff (fun _ => rfl) (mapError_eq_ok.1 h) hrow ?_
  simp only [contentFields, List.forall_mem_cons, hgiven]
  refine ⟨?_, ?_, ?_, nofun⟩
  · exact honoured_iff (reads_of_optional htitle) (fun _ => rfl) rfl rfl
  · exact honoured_iff (reads_of_optional hdata) (fun _ => rfl) rfl rfl
  · exact honoured_iff (reads_of_optional hmedia) (fun _ => rfl) rfl rfl

theorem updateMarketplaceTask_honours {refuses : MarketplaceTask → Option SqlxError}
    {rows : List MarketplaceTask} {out : MarketplaceTask × List MarketplaceTask}
    {row : MarketplaceTask}
    (h : updateMarketplaceTask P principal id body now refuses rows = .ok out)
    (hrow : Table.find MarketplaceTask.id id rows = some row) :
    Honours (taskFields P) (given UpdateMarketplaceTaskRequest.names body) MarketplaceTask.id id
        row out.2 ↔
      NullAlready (taskFields P) (given UpdateMarketplaceTaskRequest.names body) row := by
  obtain ⟨request, hbody, h⟩ := ok_of_bind h
  obtain ⟨_, _, h⟩ := ok_of_bind h
  obtain ⟨_, _, h⟩ := ok_of_bind h
  obtain ⟨fields, hfields, hrequest⟩ := readBody_ok hbody
  have hgiven (name : String) :
      given UpdateMarketplaceTaskRequest.names body name = lookup name fields := by
    rw [given, hfields]
    rfl
  simp only [UpdateMarketplaceTaskRequest.decode, Option.bind_eq_bind, Option.bind_eq_some_iff,
    Option.pure_def, Option.some.injEq] at hrequest
  obtain ⟨contentId, _, taskType, _, description, hdescription, creatorId, hcreator,
    suggestedFreelancerId, hsuggested, attachmentUrl, hattachment, mediaGenerationId, hmedia,
    rfl⟩ := hrequest
  refine honours_iff (fun _ => rfl) (mapError_eq_ok.1 h) hrow ?_
  simp only [taskFields, List.forall_mem_cons, hgiven]
  refine ⟨?_, ?_, ?_, ?_, ?_, nofun⟩
  · exact honoured_iff (reads_of_optional hdescription) (fun _ => rfl) rfl rfl
  · exact honoured_iff (reads_of_optional hcreator) (fun _ => rfl) rfl rfl
  · exact honoured_iff (reads_of_optional hsuggested) (fun _ => rfl) rfl rfl
  · exact honoured_iff (reads_of_optional hattachment) (fun _ => rfl) rfl rfl
  · exact honoured_iff (reads_of_optional hmedia) (fun _ => rfl) rfl rfl

/-- The score, whose type has no three states. -/
def scoreField : NullableField StudentProgress :=
  ⟨"score", fun v => (i32 v).map .int, fun r => .nullable .int r.score⟩

/-- A score is given, or it is not given and there is one. -/
def ScoreThere (given : Option Json) (row : StudentProgress) : Prop :=
  given ≠ some .null ∧ (given = none → row.score.isSome)

theorem honoured_score_iff {fields : List (String × Json)} {o : Option Int}
    {payload : UpdateStudentProgressPayload} {row : StudentProgress}
    (hscore : optional "score" i32 (obj fields) = some o) (hpayload : payload.score = o)
    (now : DateTime) :
    scoreField.Honoured (lookup "score" fields) row (writeProgress payload row now row) ↔
      ScoreThere (lookup "score" fields) row := by
  unfold optional fieldOr at hscore
  rw [get_obj] at hscore
  have hcol : scoreField.col (writeProgress payload row now row) =
      .int (payload.score.getD (row.score.getD 0)) := rfl
  unfold NullableField.Honoured ScoreThere
  cases hgiven : lookup "score" fields with
  | none =>
    rw [hgiven] at hscore
    rw [hcol, hpayload, ← Option.some.inj hscore]
    show SqlValue.int (row.score.getD 0) = SqlValue.nullable int row.score ↔ _
    cases row.score with
    | none => simp [SqlValue.nullable]
    | some n => simp [SqlValue.nullable]
  | some v =>
    rw [hgiven] at hscore
    cases v with
    | null => simp [hcol]
    | bool _ | str _ | arr _ | obj _ => cases hscore
    | num number =>
      have hscore : (i32 (num number)).map some = some o := hscore
      obtain ⟨n, hn, rfl⟩ := Option.map_eq_some_iff.1 hscore
      have hvalue : scoreField.value (num number) = some (.int n) := by
        show (i32 (num number)).map SqlValue.int = _
        rw [hn]
        rfl
      simp [hcol, hpayload, hvalue]

/-- The handler parses the date of a body without changing which state it is. -/
theorem reads_of_parseCompletionDate {given : Option Json} {o : Option (Option String)}
    {o' : Option (Option DateTime)} (hreads : Reads asStr given o)
    (h : parseCompletionDate P o = .ok o') : Reads (asDate P) given o' := by
  unfold Reads at hreads ⊢
  cases given with
  | none =>
    rw [hreads] at h
    cases h
    rfl
  | some v =>
    cases v with
    | null =>
      rw [hreads] at h
      cases h
      rfl
    | bool _ | num _ | str _ | arr _ | obj _ =>
      obtain ⟨text, htext, rfl⟩ := hreads
      cases hparse : P.rfc3339 text with
      | none =>
        simp only [parseCompletionDate, hparse] at h
        cases h
      | some t =>
        simp only [parseCompletionDate, hparse] at h
        cases h
        exact ⟨t, by rw [asDate, htext]; exact hparse, rfl⟩

theorem updateStudentProgress_honours {refuses : StudentProgress → Option SqlxError}
    {rows : List StudentProgress} {out : StudentProgress × List StudentProgress}
    {row : StudentProgress}
    (h : updateStudentProgress P principal id body now refuses rows = .ok out)
    (hrow : Table.find StudentProgress.id id rows = some row) :
    (Honours (progressFields P) (given UpdateStudentProgressRequest.names body) StudentProgress.id
        id row out.2 ↔
      NullAlready (progressFields P) (given UpdateStudentProgressRequest.names body) row) ∧
    (Honours [scoreField] (given UpdateStudentProgressRequest.names body) StudentProgress.id
        id row out.2 ↔
      ScoreThere (given UpdateStudentProgressRequest.names body "score") row) := by
  obtain ⟨request, hbody, h⟩ := ok_of_bind h
  obtain ⟨_, _, h⟩ := ok_of_bind h
  obtain ⟨_, _, h⟩ := ok_of_bind h
  obtain ⟨_, _, h⟩ := ok_of_bind h
  obtain ⟨date, hdate, h⟩ := ok_of_bind h
  obtain ⟨fields, hfields, hrequest⟩ := readBody_ok hbody
  have hgiven (name : String) :
      given UpdateStudentProgressRequest.names body name = lookup name fields := by
    rw [given, hfields]
    rfl
  simp only [UpdateStudentProgressRequest.decode, Option.bind_eq_bind, Option.bind_eq_some_iff,
    Option.pure_def, Option.some.injEq] at hrequest
  obtain ⟨studentName, _, score, hscore, completionDate, hcompletion, rfl⟩ := hrequest
  constructor
  · refine honours_iff (fun _ => rfl) (mapError_eq_ok.1 h) hrow ?_
    have hreads := reads_of_parseCompletionDate (reads_of_optional hcompletion) hdate
    simp only [progressFields, List.forall_mem_cons, hgiven]
    exact ⟨honoured_iff hreads (fun _ => rfl) rfl rfl, nofun⟩
  · have hall : ∀ f ∈ [scoreField],
        f.Honoured (given UpdateStudentProgressRequest.names body f.name) row
            (writeProgress ⟨studentName.map Text.trim, score, date⟩ row now row) ↔
          ScoreThere (given UpdateStudentProgressRequest.names body f.name) row := by
      rw [List.forall_mem_singleton, hgiven]
      exact honoured_score_iff hscore rfl now
    rw [honours_iff (fun _ => rfl) (mapError_eq_ok.1 h) hrow hall, List.forall_mem_singleton]
    rfl

/-- A topic with a thumbnail. -/
def topicWithThumbnail : Topic where
  id := ⟨1⟩
  title := "Pecahan"
  teacherId := "7"
  thumbnailUrl := some "t.svg"

/-- Parsers that know one date. -/
def sampleParsers : Parsers where
  uuid _ := none
  rfc3339 text := if text = "2026-08-01T00:00:00Z" then some 1785542400000000000 else none

/-- A student without a score. -/
def studentWithoutScore : StudentProgress where
  id := ⟨1⟩
  studentName := "Ani"

end KlassGateway.Api.Admin
