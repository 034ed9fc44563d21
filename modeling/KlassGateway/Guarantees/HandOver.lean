import KlassGateway.Guarantees.Submission
/-!
# The hand-over of an accepted generation

The handlers store the job id and the status `pending` first and hand the job
over afterwards.  A hand-over that fails is a warning, so the request is
answered `202` all the same.

* `accepted_awaits`: what an accepted request leaves.  It changed nothing, or
  its generation waits under the job id of the answer.  Then the stream has
  gained at most the message of that job, and it has gained it if Redis is
  configured and answers.
-/

namespace KlassGateway

open Lib Lib.Prog Db Orchestrator Queue MediaGen Api

/-! ## The requests that start a job -/

/-- A request that starts a job. -/
inductive JobRequest where
  | create (payload : CreateRequest)
  | confirm (payload : ConfirmRequest)
  | skipClarification (id : Uuid)
  | regenerate (id : Uuid) (additionalPrompt : String)

namespace JobRequest

/-- The handler of the request. -/
def handle (A : AppState) (principal : Principal) : JobRequest → GatewayResult AppError Accepted
  | create payload => Api.create A principal payload
  | confirm payload => Api.confirm A principal payload
  | skipClarification id => Api.skipClarification A principal id
  | regenerate id additionalPrompt => Api.regenerate A principal id additionalPrompt

/-- A regeneration hands its job to the renderer, the others to the queue. -/
def usesQueue : JobRequest → Bool
  | regenerate _ _ => false
  | _ => true

end JobRequest

/-! ## What is expected -/

/-- A message of the job stream carries the job of the generation, or the
renderer has accepted it, or the generation is marked failed. -/
def HandedOver (w : World) (id : Uuid) : Prop :=
  ∃ g, w.db.row id = some g ∧
    (g.status = .failed ∨ g.generationStatus = some .failed ∨
      ∃ jobId, g.generationJobId = some jobId ∧
        ((∃ e ∈ w.redis.jobs.entries, e.fields.generationId = id ∧ e.fields.jobId = some jobId) ∨
          ⟨id, jobId⟩ ∈ w.renderer.accepted))

/-- The generation waits for its job. -/
def Awaits (w : World) (id jobId : Uuid) : Prop :=
  ∃ g, w.db.row id = some g ∧ g.status = .queued ∧ g.generationStatus = some .pending ∧
    g.generationJobId = some jobId

/-- The message of the job was appended to the stream. -/
def Enqueued (w w' : World) (id jobId : Uuid) : Prop :=
  ∃ now, w'.redis.jobs = (w.redis.jobs.add ⟨id, some jobId, 1, now⟩).2

/-- The job was offered to the queue, and nothing else was sent. -/
structure Offered (w w' : World) (id jobId : Uuid) : Prop where
  renderer : w'.renderer = w.renderer
  jobs : w'.redis.jobs = w.redis.jobs ∨ Enqueued w w' id jobId

/-- Database calls and Redis commands succeed. -/
def StoresSucceed (w : World) (o : Operation) (c : Choice) : Prop :=
  DbSucceeds w o c ∧ ∀ cmd, o = .command cmd → c.fault = .none

theorem storesSucceed_of_fault {α : Type} (p : Gateway α) {env : Nat → Choice}
    (henv : ∀ n, (env n).fault = .none) (w : World) :
    ∀ c ∈ (p.run machine env w).calls, StoresSucceed c.before c.op c.choice := by
  intro c hc
  have hdb := dbSucceeds_of_fault p henv w c hc
  exact ⟨hdb, fun _ _ => choice_of_calls p (P := fun c => c.fault = .none) henv w c hc⟩

/-- The row that an insertion has added. -/
theorem row_of_append {db : Database} {row : MediaGeneration} (hf : db.insertFault row = none)
    {w' : World} {now : DateTime} (hrows : w'.db.rows = db.rows ++ [Database.stamp now row]) :
    w'.db.row row.id = some (Database.stamp now row) := by
  have hfree : Table.find MediaGeneration.id row.id db.rows = none := by
    refine List.find?_eq_none.2 fun g hg => ?_
    simpa using (Query.keys_free hf g hg).1
  unfold Database.row
  rw [hrows, Table.find_append, hfree]
  exact if_pos rfl

/-! ## The hand-over -/

section Runs

variable {A : AppState} {allow : World → Operation → Choice → Prop} {w : World}

/-- With stores that succeed the message is appended. -/
def Delivers (allow : World → Operation → Choice → Prop) (w w' : World) (id jobId : Uuid) : Prop :=
  (∀ w o c, allow w o c → StoresSucceed w o c) → Enqueued w w' id jobId

/-- A command that does not succeed. -/
theorem delivers_of_fault {w₁ w' : World} {cmd : Command} {c : Choice} {id jobId : Uuid}
    (hc : allow w₁ (.command cmd) c) (hf : c.fault ≠ .none) : Delivers allow w w' id jobId :=
  fun hallow => absurd ((hallow _ _ _ hc).2 cmd rfl) hf

theorem wp_enqueue (id jobId : Uuid) :
    (enqueue id jobId 1).run.wp (alone FreeCall allow)
      (fun _ w' => w'.db = w.db ∧ Offered w w' id jobId ∧ Delivers allow w w' id jobId) w := by
  have hsame : Offered w w id jobId := ⟨rfl, .inl rfl⟩
  refine wp_run_seq (R := fun r w' => w' = w ∧ (r = .ok () ∨ Delivers allow w w id jobId))
    (wp_command_alone trivial ⟨rfl, .inl rfl⟩ (fun c hc hf e => ⟨rfl, .inr (delivers_of_fault hc hf)⟩)
      fun c hc hf e => ⟨rfl, .inr (delivers_of_fault hc hf)⟩) ?_ ?_
  · rintro _ w' ⟨rfl, -⟩
    refine (wp_run_bind _ _ _ _).2 ((wp_run_liftM _ _ _).2 ((wp_perform_alone _ _ _).2
      ⟨trivial, fun c _ => ?_⟩))
    have hadded (w₁ : World) (h : w₁.redis.jobs = (w'.redis.jobs.add ⟨id, some jobId, 1, c.clock⟩).2) :
        Enqueued w' w₁ id jobId := ⟨_, h⟩
    refine wp_command_alone trivial ⟨rfl, ⟨rfl, .inr (hadded _ rfl)⟩, fun _ => hadded _ rfl⟩
      (fun c hc hf e => ⟨rfl, hsame, delivers_of_fault hc hf⟩)
      fun _ _ _ e => ⟨rfl, ⟨rfl, .inr (hadded _ rfl)⟩, fun _ => hadded _ rfl⟩
  · rintro e w' ⟨rfl, hr⟩
    rcases hr with hr | hr
    · cases hr
    · exact ⟨rfl, hsame, hr⟩

/-- The hand-over changes no row. -/
theorem wp_handOver (id jobId : Uuid) :
    (handOver A id jobId).wp (alone FreeCall allow)
      (fun _ w' => w'.db = w.db ∧ Offered w w' id jobId ∧
        (A.redisPool = true → Delivers allow w w' id jobId)) w := by
  unfold handOver
  split
  · refine (wp_bind _ _ _ _).2 (wp_mono (fun r w' h => ?_) (wp_enqueue id jobId))
    exact ⟨h.1, h.2.1, fun _ => h.2.2⟩
  · next hpool => exact ⟨rfl, ⟨rfl, .inl rfl⟩, fun h => absurd h hpool⟩

/-! ## The statements of the handlers -/

/-- Nothing was sent to the queue or to the renderer. -/
structure NothingSent (w w' : World) : Prop where
  redis : w'.redis = w.redis
  renderer : w'.renderer = w.renderer

theorem NothingSent.refl (w : World) : NothingSent w w := ⟨rfl, rfl⟩

theorem NothingSent.trans {w w₁ w' : World} (h : NothingSent w w₁) (h' : NothingSent w₁ w') :
    NothingSent w w' := ⟨h'.redis.trans h.redis, h'.renderer.trans h.renderer⟩

/-- What a request that has started a job leaves. -/
structure Started (A : AppState) (allow : World → Operation → Choice → Prop) (w w' : World)
    (id jobId : Uuid) : Prop where
  awaits : Awaits w' id jobId
  offered : Offered w w' id jobId
  delivers : A.redisPool = true → Delivers allow w w' id jobId

theorem Started.of_nothingSent {w₁ w' : World} {id jobId : Uuid} (h : NothingSent w w₁)
    (h' : Started A allow w₁ w' id jobId) : Started A allow w w' id jobId := by
  have hjobs : w₁.redis.jobs = w.redis.jobs := congrArg Redis.jobs h.redis
  have henqueued (he : Enqueued w₁ w' id jobId) : Enqueued w w' id jobId := by
    obtain ⟨now, he⟩ := he
    exact ⟨now, hjobs ▸ he⟩
  refine ⟨h'.awaits, ⟨h'.offered.renderer.trans h.renderer, ?_⟩, fun hpool hallow =>
    henqueued (h'.delivers hpool hallow)⟩
  exact h'.offered.jobs.imp (fun he => he.trans hjobs) henqueued

/-- Every database call succeeds. -/
abbrev DbAnswers (allow : World → Operation → Choice → Prop) : Prop :=
  ∀ w o c, allow w o c → DbSucceeds w o c

/-- What an accepted request leaves: it changed nothing, or its generation waits
for a job. -/
def Accepts (request : JobRequest) (A : AppState) (allow : World → Operation → Choice → Prop)
    (w : World) (a : Accepted) (w' : World) : Prop :=
  (w'.db = w.db ∧ (w.db.row a.generationId).isSome) ∨
    ∃ jobId, a.jobId = some jobId ∧ Awaits w' a.generationId jobId ∧
      (request.usesQueue = true → Started A allow w w' a.generationId jobId)

theorem wp_requireTeacher (principal : Principal) :
    (requireTeacher principal).run.wp (alone FreeCall allow) (OnValue fun _ w' => w' = w) w := by
  unfold requireTeacher
  split
  · exact onValue_error _ w
  · exact onValue_ok rfl

theorem wp_checkRateLimit (principal : Principal) (endpoint : String) :
    (checkRateLimit A principal endpoint).run.wp (alone FreeCall allow)
      (OnValue fun _ w' => w' = w) w := by
  unfold checkRateLimit
  split
  · refine (wp_run_bind _ _ _ _).2 ((wp_run_liftM _ _ _).2 ((wp_perform_alone _ _ _).2
      ⟨trivial, fun c _ => ?_⟩))
    dsimp only
    split
    · exact onValue_error _ _
    · exact onValue_ok rfl
  · exact onValue_ok rfl

/-- The job id of an answer about a generation that was there before. -/
theorem wp_jobIdOr {α : Type} (g : MediaGeneration) {f : Uuid → GatewayResult AppError α}
    {Q : Except AppError α → World → Prop}
    (h : ∀ jobId w', w'.db = w.db → (f jobId).run.wp (alone FreeCall allow) Q w') :
    ((liftM (jobIdOr g) : GatewayResult AppError Uuid) >>= f).run.wp (alone FreeCall allow) Q w := by
  unfold jobIdOr
  cases g.generationJobId with
  | some jobId => exact h jobId w rfl
  | none => exact wp_draw_alone trivial (h _ _ rfl)

theorem wp_answerTerminal {request : JobRequest} {id : Uuid} {g : MediaGeneration}
    (hg : w.db.row id = some g) :
    (answerTerminal g).run.wp (alone FreeCall allow) (OnValue (Accepts request A allow w)) w := by
  have hid : g.id = id := Table.find_key hg
  refine wp_jobIdOr g fun jobId w' hsame => onValue_ok (.inl ⟨hsame, ?_⟩)
  show (w.db.row g.id).isSome
  rw [hid, hg]
  rfl

variable (hdb : DbAnswers allow)
include hdb

/-- A read of the generation of a teacher. -/
theorem wp_findByIdForTeacher (id : Uuid) (teacherId : Int) :
    (findByIdForTeacher id teacherId).run.wp (alone FreeCall allow)
      (OnValue fun r w' => w' = w ∧ ∀ g, r = some g → w.db.row id = some g) w := by
  refine wp_onValue_bind (R := fun r w' => w' = w ∧ r = w.db.row id)
    (wp_onValue_mapErr (wp_query_alone trivial (fun _ _ => onValue_ok ⟨rfl, rfl⟩)
      fun c hc hf => absurd (hdb _ _ _ hc) hf)) fun r w' h => ?_
  obtain ⟨rfl, rfl⟩ := h
  exact onValue_ok ⟨rfl, fun g hg => (Option.filter_eq_some_iff.1 hg).1⟩

/-- An update of a row that exists succeeds. -/
theorem wp_updateRow {id : Uuid} {g : MediaGeneration} (hg : w.db.row id = some g) (u : RowUpdate)
    (failure absent : String) :
    (updateRow id u failure absent).run.wp (alone FreeCall allow)
      (fun r w' => r = .ok () ∧ NothingSent w w' ∧ ∃ now, w'.db.row id = some (u.apply now g)) w := by
  refine wp_run_seq (R := fun r w' => r.toOption.join.isSome ∧ NothingSent w w' ∧
      ∃ now, w'.db.row id = some (u.apply now g))
    ((wp_run_mapErr _ _ _ _).2 (wp_onRow_alone hg trivial (fun now _ _ w' hw' hrow => ?_)
      fun c hc hf => absurd (hdb _ _ _ hc) hf)) (fun r w' h => ?_) fun e w' h => by cases h.1
  · obtain ⟨db, rfl⟩ := hw'
    exact ⟨rfl, ⟨rfl, rfl⟩, now, hrow⟩
  · obtain ⟨hsome, h⟩ := h
    cases r with
    | none => cases hsome
    | some _ => exact ⟨rfl, h⟩

theorem wp_update {id : Uuid} {g : MediaGeneration} (hg : w.db.row id = some g) (u : RowUpdate)
    (context failure absent : String) :
    (internal context (updateRow id u failure absent)).run.wp (alone FreeCall allow)
      (OnValue fun _ w' => NothingSent w w' ∧ ∃ now, w'.db.row id = some (u.apply now g)) w := by
  refine wp_onValue_mapErr (wp_mono (fun r w' h => ?_) (wp_updateRow hdb hg u failure absent))
  obtain ⟨rfl, h⟩ := h
  exact onValue_ok h

/-- A queued generation gets its job. -/
theorem wp_startJob {id : Uuid} {g : MediaGeneration} (hg : w.db.row id = some g)
    (hqueued : g.status = .queued) :
    (startJob A id).run.wp (alone FreeCall allow)
      (OnValue fun jobId w' => Started A allow w w' id jobId) w := by
  refine wp_draw_alone trivial ?_
  have hdrawn : NothingSent w { w with nextUuid := w.nextUuid + 1 } := ⟨rfl, rfl⟩
  have hg₁ : ({ w with nextUuid := w.nextUuid + 1 } : World).db.row id = some g := hg
  refine wp_onValue_bind (wp_update hdb hg₁ _ _ _ _) fun _ w₁ h => ?_
  obtain ⟨hsent, now, hrow⟩ := h
  refine (wp_run_bind _ _ _ _).2 ((wp_run_liftM _ _ _).2
    (wp_mono (fun _ w' h => ?_) (wp_handOver id _)))
  obtain ⟨hsame, hoffered, hdelivers⟩ := h
  have hawaits : Awaits w' id ⟨w.nextUuid⟩ := by
    unfold Awaits
    rw [hsame]
    exact ⟨_, hrow, hqueued, rfl, rfl⟩
  exact onValue_ok (Started.of_nothingSent (hdrawn.trans hsent) ⟨hawaits, hoffered, hdelivers⟩)

/-- A generation that exists is reset and gets its job. -/
theorem wp_reprocess {id : Uuid} {g : MediaGeneration} (hg : w.db.row id = some g) (prompt : String)
    (state : Json) (skipped : Bool) (message : String) :
    (reprocess A id prompt state skipped message).run.wp (alone FreeCall allow)
      (OnValue fun a w' => a.generationId = id ∧
        ∃ jobId, a.jobId = some jobId ∧ Started A allow w w' id jobId) w := by
  refine wp_onValue_bind (wp_update hdb hg _ _ _ _) fun _ w₁ h => ?_
  obtain ⟨hsent₁, now₁, hrow₁⟩ := h
  refine (wp_run_bind _ _ _ _).2 ((wp_run_liftM _ _ _).2 ((wp_perform_alone _ _ _).2
    ⟨trivial, fun c _ => ?_⟩))
  refine wp_onValue_bind (wp_update hdb hrow₁ _ _ _ _) fun _ w₂ h => ?_
  obtain ⟨hsent₂, now₂, hrow₂⟩ := h
  refine wp_onValue_bind (wp_startJob hdb hrow₂ rfl) fun jobId w' h => ?_
  exact onValue_ok ⟨rfl, jobId, rfl, h.of_nothingSent (hsent₁.trans hsent₂)⟩

/-! ## The submission -/

/-- A submission finds a generation or inserts one. -/
theorem wp_submit (input : CreateInput) :
    (submit A input).run.wp (alone FreeCall allow)
      (OnValue fun r w' => NothingSent w w' ∧
        (r.wasCreated = false ∧ w'.db = w.db ∧ (w.db.row r.id).isSome ∨
          r.wasCreated = true ∧ ∃ g, w'.db.row r.id = some g ∧ g.status = .queued)) w := by
  refine wp_onValue_mapErr (wp_alone_allow hdb ?_)
  cases hnew : Database.newest (activeDuplicates A.platform input w.db) with
  | some g =>
    refine wp_mono (fun r w' h => ?_) (wp_createOrReuse_found hnew)
    obtain ⟨rfl, rfl⟩ := h
    have hmem : g ∈ w'.db.rows := (List.mem_filter.1 (newest_mem hnew)).1
    refine onValue_ok ⟨.refl w', .inl ⟨rfl, rfl, ?_⟩⟩
    exact List.find?_isSome.2 ⟨g, hmem, by simp⟩
  | none =>
    refine wp_mono (fun r w' h => ?_) (wp_createOrReuse_new (newest_eq_none.1 hnew))
    rcases h with ⟨hf, rfl, hredis, hrenderer, now, hrows⟩ | ⟨_, e, rfl⟩
    · exact onValue_ok ⟨⟨hredis, hrenderer⟩, .inr ⟨rfl, _, row_of_append hf hrows, rfl⟩⟩
    · exact onValue_error e w'

/-- A regeneration is inserted if its parent is there. -/
theorem wp_submitRegeneration (parentId : Uuid) (additionalPrompt : String) :
    (submitRegeneration A parentId additionalPrompt).run.wp (alone FreeCall allow)
      (OnValue fun id w' => ∃ g, w'.db.row id = some g ∧ g.status = .queued) w := by
  refine wp_onValue_mapErr (wp_onValue_bind (R := fun r w' => w' = w ∧ r = w.db.row parentId)
    (wp_onValue_mapErr (wp_query_alone trivial (fun _ _ => onValue_ok ⟨rfl, rfl⟩)
      fun c hc hf => absurd (hdb _ _ _ hc) hf)) fun r w' h => ?_)
  obtain ⟨rfl, hr⟩ := h
  cases r with
  | none => exact onValue_error _ _
  | some parent =>
    refine wp_draw_alone trivial ?_
    refine wp_onValue_bind (R := fun _ w₁ => ∃ g, w₁.db.row ⟨w'.nextUuid⟩ = some g ∧ g.status = .queued)
      (wp_onValue_mapErr (wp_query_alone trivial (fun now replies => ?_)
        fun c hc hf => absurd (hdb _ _ _ hc) hf)) fun _ w₁ h => onValue_ok h
    simp only [Query.exec, ← hr]
    set row : MediaGeneration :=
      { regenerationRow A.platform parent additionalPrompt ⟨w'.nextUuid⟩ with
        teacherId := parent.teacherId }
    cases hf : w'.db.insertFault row with
    | none =>
      rw [Database.insert_of_none hf]
      exact onValue_ok ⟨_, row_of_append hf rfl, rfl⟩
    | some e =>
      rw [Database.insert_of_some hf]
      exact onValue_error e _

/-! ## The handlers -/

theorem wp_answerExisting (principal : Principal) (id : Uuid) :
    (answerExisting principal id).run.wp (alone FreeCall allow)
      (OnValue fun a w' => a.generationId = id ∧ w'.db = w.db) w := by
  refine wp_onValue_bind (wp_onValue_mapErr (wp_findByIdForTeacher hdb id principal.userId))
    fun r w' h => ?_
  obtain ⟨rfl, -⟩ := h
  cases r with
  | none => exact onValue_error _ _
  | some g => exact wp_jobIdOr g fun jobId w₁ hsame => onValue_ok ⟨rfl, hsame⟩

theorem wp_create (principal : Principal) (payload : CreateRequest) :
    (create A principal payload).run.wp (alone FreeCall allow)
      (OnValue (Accepts (.create payload) A allow w)) w := by
  refine wp_onValue_bind (wp_requireTeacher principal) fun _ w₁ h => ?_
  subst h
  refine wp_onValue_bind (wp_checkRateLimit principal _) fun _ w₂ h => ?_
  subst h
  refine wp_onValue_bind (wp_submit hdb _) fun r w₃ h => ?_
  rcases h with ⟨hsent, ⟨hcreated, hsame, hid⟩ | ⟨hcreated, g, hg, hqueued⟩⟩
  · rw [if_neg (by simp [hcreated])]
    refine wp_mono (fun r' w' h => ?_) (wp_answerExisting hdb principal r.id)
    rintro a rfl
    obtain ⟨ha, hw'⟩ := h a rfl
    exact .inl ⟨hw'.trans hsame, ha ▸ hid⟩
  · rw [if_pos hcreated]
    refine wp_onValue_bind (wp_startJob hdb hg hqueued) fun jobId w' h => ?_
    exact onValue_ok (.inr ⟨jobId, rfl, h.awaits, fun _ => h.of_nothingSent hsent⟩)

/-- A reset is accepted, whether the generation is new or was there before. -/
theorem wp_reset {request : JobRequest} {w₁ : World} (hsent : NothingSent w w₁) {id : Uuid}
    {g : MediaGeneration} (hg : w₁.db.row id = some g) (prompt : String) (state : Json)
    (skipped : Bool) (message : String) :
    (reprocess A id prompt state skipped message).run.wp (alone FreeCall allow)
      (OnValue (Accepts request A allow w)) w₁ := by
  refine wp_mono (fun r w' h a ha => ?_) (wp_reprocess hdb hg prompt state skipped message)
  obtain ⟨rfl, jobId, hjob, hstarted⟩ := h a ha
  exact .inr ⟨jobId, hjob, hstarted.awaits, fun _ => hstarted.of_nothingSent hsent⟩

theorem wp_confirm (principal : Principal) (payload : ConfirmRequest) :
    (confirm A principal payload).run.wp (alone FreeCall allow)
      (OnValue (Accepts (.confirm payload) A allow w)) w := by
  refine wp_onValue_bind (wp_requireTeacher principal) fun _ w₁ h => ?_
  subst h
  split
  · exact onValue_error _ _
  · refine wp_onValue_bind (wp_onValue_mapErr (wp_findByIdForTeacher hdb _ _)) fun r w₁ h => ?_
    obtain ⟨rfl, hr⟩ := h
    cases r with
    | some g =>
      have hg := hr g rfl
      have hid : g.id = payload.generationId := Table.find_key hg
      dsimp only
      split
      · exact wp_answerTerminal hg
      · exact wp_reset hdb (.refl _) (hid ▸ hg) _ _ _ _
    | none =>
      refine wp_onValue_bind (wp_submit hdb _) fun result w₂ h => ?_
      have hrow : ∃ g, w₂.db.row result.id = some g := by
        rcases h.2 with ⟨_, hsame, hid⟩ | ⟨_, g, hg, _⟩
        · exact Option.isSome_iff_exists.1 (hsame ▸ hid)
        · exact ⟨g, hg⟩
      obtain ⟨g, hg⟩ := hrow
      exact wp_reset hdb h.1 hg _ _ _ _

theorem wp_skipClarification (principal : Principal) (id : Uuid) :
    (skipClarification A principal id).run.wp (alone FreeCall allow)
      (OnValue (Accepts (.skipClarification id) A allow w)) w := by
  refine wp_onValue_bind (wp_requireTeacher principal) fun _ w₁ h => ?_
  subst h
  refine wp_onValue_bind (wp_onValue_mapErr (wp_findByIdForTeacher hdb _ _)) fun r w₁ h => ?_
  obtain ⟨rfl, hr⟩ := h
  cases r with
  | none => exact onValue_error _ _
  | some g =>
    have hg := hr g rfl
    dsimp only
    split
    · exact wp_answerTerminal hg
    · exact wp_reset hdb (.refl _) hg _ _ _ _

/-- The row of a regeneration keeps its job whatever becomes of the render job. -/
theorem wp_startRegeneration {id : Uuid} {g : MediaGeneration} (hg : w.db.row id = some g)
    (hqueued : g.status = .queued) :
    (startRegeneration A id).wp (alone FreeCall allow)
      (fun _ w' => ∃ jobId, Awaits w' id jobId) w := by
  refine (wp_bind _ _ _ _).2 ((wp_perform_alone _ _ _).2 ⟨trivial, fun c _ => ?_⟩)
  have hg₁ : (Operation.exec w .newUuid c).2.db.row id = some g := hg
  refine (wp_bind _ _ _ _).2 (wp_mono (fun r w₁ h => ?_) (wp_updateRow hdb hg₁ _ _ _))
  obtain ⟨-, -, now, hrow⟩ := h
  obtain ⟨row, hrow, hrest⟩ : ∃ row, w₁.db.row id = some row ∧ row.status = .queued ∧
      row.generationStatus = some .pending ∧ row.generationJobId = some ⟨w.nextUuid⟩ :=
    ⟨_, hrow, hqueued, rfl, rfl⟩
  have hkeep : (submitJob A.webhookBaseUrl id ⟨w.nextUuid⟩).run.wp (alone FreeCall allow)
      (fun _ w' => w'.db.row id = some row) w₁ := by
    refine wp_keeps (only_submitJob A.webhookBaseUrl _) hrow (fun _ _ _ => trivial)
      fun w o c ho hw => ?_
    obtain h | ⟨st, rfl, -⟩ := o.exec_row c hw
    · exact h
    · rcases ho with ho | ⟨request, ho, -⟩
      · cases ho
      · cases ho
  refine (wp_bind _ _ _ _).2 (wp_mono (fun _ w' h => ?_) hkeep)
  exact ⟨⟨w.nextUuid⟩, row, h, hrest⟩

theorem wp_answerRegeneration (principal : Principal) (id : Uuid) :
    (answerRegeneration principal id).run.wp (alone FreeCall allow)
      (OnValue fun a w' => w' = w ∧ ∃ g, w.db.row id = some g ∧ a.generationId = id ∧
        a.jobId = g.generationJobId) w := by
  refine wp_onValue_bind (wp_onValue_mapErr (wp_findByIdForTeacher hdb id principal.userId))
    fun r w' h => ?_
  obtain ⟨rfl, hr⟩ := h
  cases r with
  | none => exact onValue_error _ _
  | some g =>
    have hg := hr g rfl
    have hid : g.id = id := Table.find_key hg
    exact onValue_ok ⟨rfl, g, hg, hid, rfl⟩

theorem wp_regenerate (principal : Principal) (id : Uuid) (additionalPrompt : String) :
    (regenerate A principal id additionalPrompt).run.wp (alone FreeCall allow)
      (OnValue (Accepts (.regenerate id additionalPrompt) A allow w)) w := by
  refine wp_onValue_bind (wp_requireTeacher principal) fun _ w₁ h => ?_
  subst h
  refine wp_onValue_bind (wp_checkRateLimit principal _) fun _ w₂ h => ?_
  subst h
  refine wp_onValue_bind (wp_onValue_mapErr (wp_findByIdForTeacher hdb _ _)) fun r w₁ h => ?_
  obtain ⟨rfl, -⟩ := h
  cases r with
  | none => exact onValue_error _ _
  | some parent =>
    dsimp only
    split
    · exact onValue_error _ _
    · refine wp_onValue_bind (wp_submitRegeneration hdb _ _) fun newId w₂ h => ?_
      obtain ⟨g, hg, hqueued⟩ := h
      refine (wp_run_bind _ _ _ _).2 ((wp_run_liftM _ _ _).2
        (wp_mono (fun _ w₃ h => ?_) (wp_startRegeneration hdb hg hqueued)))
      obtain ⟨jobId, hawaits⟩ := h
      refine wp_mono (fun r w' h a ha => ?_) (wp_answerRegeneration hdb principal newId)
      obtain ⟨rfl, g', hg', hid, hjob⟩ := h a ha
      obtain ⟨g'', hg'', hq, hp, hj⟩ := hawaits
      obtain rfl : g'' = g' := Option.some.inj (hg''.symm.trans hg')
      exact .inr ⟨jobId, hjob.trans hj, hid ▸ ⟨g'', hg'', hq, hp, hj⟩, nofun⟩

/-- Every handler. -/
theorem wp_handle (principal : Principal) (request : JobRequest) :
    (request.handle A principal).run.wp (alone FreeCall allow)
      (OnValue (Accepts request A allow w)) w := by
  cases request with
  | create payload => exact wp_create hdb principal payload
  | confirm payload => exact wp_confirm hdb principal payload
  | skipClarification id => exact wp_skipClarification hdb principal id
  | regenerate id additionalPrompt => exact wp_regenerate hdb principal id additionalPrompt

end Runs

/-! ## Accepted requests -/

/-- A request that is answered `202` changed nothing, or its generation waits
under the job id of the answer.  A request that uses the queue has then sent
at most the message of that job, and it has sent it if Redis is configured and
its commands succeed. -/
theorem accepted_awaits (A : AppState) (principal : Principal) (request : JobRequest)
    (env : Nat → Choice) (w : World) {out : Outcome machine (Except AppError Accepted)}
    (hout : out = (request.handle A principal).run.run machine env w)
    (hdb : ∀ c ∈ out.calls, DbSucceeds c.before c.op c.choice) {a : Accepted}
    (ha : out.result = some (.ok a)) :
    (out.world.db = w.db ∧ (w.db.row a.generationId).isSome) ∨
    ∃ jobId, a.jobId = some jobId ∧ Awaits out.world a.generationId jobId ∧
      (request.usesQueue = true →
        Offered w out.world a.generationId jobId ∧
        (A.redisPool = true → (∀ c ∈ out.calls, StoresSucceed c.before c.op c.choice) →
          Enqueued w out.world a.generationId jobId)) := by
  subst hout
  have hlaw : DbAnswers DbSucceeds := fun _ _ _ h => h
  have hstores : DbAnswers StoresSucceed := fun _ _ _ h => h.1
  -- Which of the two is needed depends on the Redis commands of the run.
  by_cases hcalls : ∀ c ∈ ((request.handle A principal).run.run machine env w).calls,
      StoresSucceed c.before c.op c.choice
  · refine (Machine.result_of_wp (wp_handle hstores principal request) hcalls ha a rfl).imp_right ?_
    rintro ⟨jobId, hjob, hawaits, hstarted⟩
    refine ⟨jobId, hjob, hawaits, fun hqueue => ⟨(hstarted hqueue).offered, fun hpool _ => ?_⟩⟩
    exact (hstarted hqueue).delivers hpool fun _ _ _ h => h
  · refine (Machine.result_of_wp (wp_handle hlaw principal request) hdb ha a rfl).imp_right ?_
    rintro ⟨jobId, hjob, hawaits, hstarted⟩
    exact ⟨jobId, hjob, hawaits, fun hqueue => ⟨(hstarted hqueue).offered, fun _ h => absurd h hcalls⟩⟩

/-- A request for a generation. -/
def sampleRequest : JobRequest := .create { rawPrompt := "fotosintesis" }

/-- A run of its handler. -/
def sampleAnswer (env : Nat → Choice) : Outcome machine (Except AppError Accepted) :=
  (sampleRequest.handle sampleGateway sampleTeacher).run.run machine env sampleWorld

/-- When all goes well its generation waits for its job, of which there is a message. -/
theorem accepted_awaits_sample : ∃ jobId, Awaits (sampleAnswer fun _ => fine).world ⟨0⟩ jobId ∧
    Enqueued sampleWorld (sampleAnswer fun _ => fine).world ⟨0⟩ jobId := by
  have hanswer : (sampleAnswer fun _ => fine).result.map (fun r =>
      r.toOption.map Accepted.generationId) = some (some ⟨0⟩) := by
    decide +kernel
  obtain ⟨r, hr, hanswer⟩ := Option.map_eq_some_iff.1 hanswer
  obtain ⟨a, ha, hid⟩ := Option.map_eq_some_iff.1 hanswer
  obtain rfl : r = .ok a := by
    cases r with
    | ok b => exact congrArg Except.ok (Option.some.inj ha)
    | error e => cases ha
  rcases accepted_awaits sampleGateway sampleTeacher sampleRequest (fun _ => fine) sampleWorld rfl
    (dbSucceeds_of_fault _ (fun _ => rfl) _) hr with ⟨_, hold⟩ | ⟨jobId, _, hawaits, hqueue⟩
  · rw [hid] at hold
    cases hold
  · have hsent := (hqueue rfl).2 rfl (storesSucceed_of_fault _ (fun _ => rfl) _)
    exact ⟨jobId, hid ▸ hawaits, hid ▸ hsent⟩

/-- The connection for the hand-over fails. -/
def redisGone (n : Nat) : Choice :=
  if n = 6 then { fine with fault := .failed "connection refused" } else fine

/-- The generation is accepted as pending, and nothing will ever process it. -/
theorem accepted_not_handedOver :
    (sampleAnswer redisGone).result.map (fun r => r.toOption.map fun a => (a.generationId, a.status)) =
        some (some (⟨0⟩, "pending")) ∧
      ¬ HandedOver (sampleAnswer redisGone).world ⟨0⟩ := by
  have hend : ((sampleAnswer redisGone).world.db.row ⟨0⟩).map (fun g =>
        (g.status, g.generationStatus)) = some (.queued, some .pending) ∧
      (sampleAnswer redisGone).world.redis.jobs.entries.length = 0 ∧
      (sampleAnswer redisGone).world.renderer.accepted.length = 0 := by
    decide +kernel
  obtain ⟨hrow, hentries, haccepted⟩ := hend
  refine ⟨by decide +kernel, ?_⟩
  rintro ⟨g, hg, hfailed | hfailed | ⟨jobId, -, ⟨e, he, -⟩ | hrendered⟩⟩
  · rw [hg] at hrow
    cases hfailed.symm.trans (Prod.mk.inj (Option.some.inj hrow)).1
  · rw [hg] at hrow
    cases hfailed.symm.trans (Prod.mk.inj (Option.some.inj hrow)).2
  · rw [List.eq_nil_of_length_eq_zero hentries] at he
    cases he
  · rw [List.eq_nil_of_length_eq_zero haccepted] at hrendered
    cases hrendered

end KlassGateway
