import KlassGateway.Reachable
/-!
# The lifecycle status

What becomes of `status` over whole histories.

* `terminal_status_stays`: of the writers of the status only
  `reset_for_reprocessing` can leave a terminal status, so a history in which
  every reset finds an open row keeps terminal statuses.
* `open_of_quiescent`: with every call succeeding the only terminal status is
  `failed`, and it comes with a dead letter.  A generation with no work left
  anywhere is open for ever, because after the renderer's callback nothing
  resumes its run.
-/

namespace KlassGateway

open Lib Lib.Prog Db Orchestrator Queue Api

variable {A : AppState}

/-- The lifecycle status of a row. -/
def statusOf (w : World) (id : Uuid) : Option MediaGenerationStatus :=
  (w.db.row id).map MediaGeneration.status

/-! ## Terminal statuses -/

/-- A reset, if the call is one, finds its row open. -/
def resetFindsOpen (w : World) : Operation → Bool
  | .query (.onRow id (.update (.resetForReprocessing _))) =>
    (statusOf w id).all fun status => !status.isTerminal
  | _ => true

/-- The step is no reset of a terminal row. -/
def ResetsFindOpen (s : (system A).State) (a : (system A).Action) : Prop :=
  (Pool.called s a).all fun lo => resetFindsOpen s.world lo.2

instance (s : (system A).State) (a : (system A).Action) : Decidable (ResetsFindOpen s a) :=
  inferInstanceAs (Decidable (_ = true))

/-- A statement that is no reset keeps a terminal status. -/
theorem row_status_of_isTerminal {g : MediaGeneration} (ht : g.status.isTerminal)
    {st : RowStatement} (hst : ∀ prompt, st ≠ .update (.resetForReprocessing prompt))
    (now : DateTime) (replies : MediaGen.PublicationReplies) (projectId : Int) :
    (st.row now replies projectId g).status = g.status := by
  obtain h | ⟨_, _, _, _, _, hedge, _⟩ | ⟨_, _, _, _, _, _, _, hopen, h⟩ | ⟨prompt, hp, _⟩ :=
    row_status now replies projectId g st
  · exact h
  · rw [MediaGenerationStatus.canTransition_of_isTerminal ht] at hedge
    cases hedge
  · -- The only terminal status that `mark_failed` accepts is `failed` itself.
    rw [h]
    cases hs : g.status <;> simp_all [MediaGenerationStatus.isTerminal]
  · exact absurd hp (hst prompt)

/-- A terminal status stays in every run whose resets find open rows. -/
theorem terminal_status_stays {s s' : (system A).State} (h : Pool.Reach ResetsFindOpen s s')
    {id : Uuid} {status : MediaGenerationStatus} (hs : statusOf s.world id = some status)
    (ht : status.isTerminal) : statusOf s'.world id = some status := by
  obtain ⟨g, hg, hstatus⟩ := Option.map_eq_some_iff.1 hs
  obtain ⟨g', hg', hstatus'⟩ : ∃ g', s'.world.db.row id = some g' ∧ g'.status = status := by
    refine row_of_reach (fun t a l st g now replies projectId hok hcall hrow hi => ?_) h
      ⟨g, hg, hstatus⟩
    rw [← hi]
    refine row_status_of_isTerminal (hi ▸ ht) (fun prompt hst => ?_) now replies projectId
    subst hst
    simp [ResetsFindOpen, hcall, resetFindsOpen, statusOf, hrow, hi, ht] at hok
  exact Option.map_eq_some_iff.2 ⟨g', hg', hstatus'⟩

/-- A request is created and its worker run fails for good; meanwhile a
`skip_clarification` has read the open row. -/
def failureDuringSkip : List ((system sampleGateway).Action) :=
  requestRead ++ calls 2 7 ++
  [.arrive (.skipClarification sampleTeacher ⟨0⟩)] ++ calls 3 1 ++
  [.act 2 refused] ++ calls 2 6

/-- A failed generation becomes `queued` again. -/
theorem terminal_status_changes :
    ∃ s s' : (system sampleGateway).State, Reachable sampleGateway (fun _ _ => True) s ∧
      Pool.Reach (fun _ _ => True) s s' ∧
      statusOf s.world ⟨0⟩ = some .failed ∧ statusOf s'.world ⟨0⟩ = some .queued := by
  have hplay : ((Pool.play (fun _ _ => True) ((system sampleGateway).start sampleWorld)
      failureDuringSkip).bind fun s => (Pool.play (fun _ _ => True) s (calls 3 1)).map fun s' =>
        (statusOf s.world ⟨0⟩, statusOf s'.world ⟨0⟩)) = some (some .failed, some .queued) := by
    decide +kernel
  obtain ⟨s, s', hs, hs', he⟩ := Pool.exists_of_plays hplay
  obtain ⟨h, h'⟩ := Prod.mk.inj he
  exact ⟨s, s', ⟨_, initial_sampleWorld, hs⟩, hs', h, h'⟩

/-- After the failure a second `skip_clarification` is answered from the row and
the status stays. -/
theorem terminal_status_stays_failed :
    ∃ s s' : (system sampleGateway).State, Pool.Reach ResetsFindOpen s s' ∧
      statusOf s.world ⟨0⟩ = some .failed ∧ statusOf s'.world ⟨0⟩ = some .failed := by
  have hplay : ((Pool.play ResetsFindOpen ((system sampleGateway).start sampleWorld)
      failureDuringSkip).bind fun s => (Pool.play ResetsFindOpen s
        ([.arrive (.skipClarification sampleTeacher ⟨0⟩)] ++ calls 4 1)).map fun _ =>
          statusOf s.world ⟨0⟩) = some (some .failed) := by
    decide +kernel
  obtain ⟨s, s', _, hs', he⟩ := Pool.exists_of_plays hplay
  exact ⟨s, s', hs', he, terminal_status_stays hs' he rfl⟩

/-! ## Generations with no work left -/

/-- Every call succeeds and no task is lost. -/
def CallsSucceed (_ : (system A).State) : (system A).Action → Prop
  | .act _ c => c.succeeds
  | .crash _ => False
  | .arrive (.readMessages _ replyLost) => replyLost = false
  | .arrive _ => True

instance (s : (system A).State) (a : (system A).Action) : Decidable (CallsSucceed s a) := by
  unfold CallsSucceed
  split <;> infer_instance

/-- Nothing is left to do for a generation: no task about it runs, none of its
messages is unread, pending or dead, and no render job owes a callback. -/
structure Quiescent (s : (system A).State) (id : Uuid) : Prop where
  tasks : ∀ i t, s.tasks i = some t → t.label.generation ≠ some id
  unread : ∀ e ∈ s.world.redis.jobs.unread, e.fields.generationId ≠ id
  pending : ∀ e ∈ s.world.redis.jobs.entries, e.fields.generationId = id →
    ∀ p ∈ s.world.redis.jobs.pending, p.id ≠ e.id
  deadLetters : ∀ e ∈ s.world.redis.dlq.entries, e.fields.generationId ≠ id
  callbacks : ∀ job ∈ s.world.renderer.owed, job.generationId ≠ id

/-- A dead letter of the generation is stored. -/
def HasLetter (w : World) (id : Uuid) : Prop :=
  ∃ e ∈ w.redis.dlq.entries, e.fields.generationId = id

/-- Dead letters stay. -/
theorem HasLetter.exec {w : World} {id : Uuid} (h : HasLetter w id) (o : Operation) (c : Choice) :
    HasLetter (o.exec w c).2 id := by
  obtain ⟨e, he, hid⟩ := h
  refine ⟨e, ?_, hid⟩
  obtain hr | ⟨cmd, rfl, hr⟩ := o.exec_redis w c
  · rw [hr]
    exact he
  · rw [hr]
    cases cmd with
    | xaddDlq letter => exact List.mem_append_left _ he
    | xgroupCreate =>
      simp only [Command.exec]
      cases w.redis.jobs.createGroup <;> exact he
    | xpending count =>
      simp only [Command.exec]
      split <;> exact he
    | _ => exact he

/-- A dead letter is there once `XADD` has succeeded. -/
theorem hasLetter_xaddDlq {w : World} {c : Choice} (hfault : c.fault = .none)
    (letter : DeadLetter) :
    HasLetter (Operation.exec w (.command (.xaddDlq letter)) c).2 letter.generationId := by
  refine ⟨⟨w.redis.dlq.lastId + 1, letter⟩, ?_, rfl⟩
  simp [Operation.exec, withFault, hfault, Command.exec, Stream.add]

/-- A generation is marked failed after its dead letter was stored; the mode is
the generation whose letter that was. -/
def lettersSpec : OpSpec effects (Option Uuid) where
  pre stored o := match o with
    | .query (.insertSubmission row) => row.status = .queued
    | .query (.insertRegeneration _ row) => row.status = .queued
    | .query (.onRow _ (.transition toStatus _ _ _)) => toStatus ∈ runTargets
    | .query (.onRow id (.markFailed _ _ _ _ _ _)) => stored = some id
    | _ => True
  step stored o r stored' := match o, r with
    | .command .connect, r => r.isOk ∧ stored' = stored
    | .command (.xaddDlq letter), r => r.isOk ∧ stored' = some letter.generationId
    | _, _ => stored' = stored

/-- The discipline of every task while the calls succeed. -/
def letters (A : AppState) : Discipline (system A) (Option Uuid) where
  spec := lettersSpec
  inv w v := (∀ g ∈ w.db.rows, g.status = .failed → HasLetter w g.id) ∧
    ∀ i l id, v i = some (l, some id) → HasLetter w id

theorem letters_admits (P : Platform) : Admits P lettersSpec where
  handler stored o h := by
    cases o with
    | query q =>
      cases q with
      | onRow id st =>
        cases st with
        | transition toStatus context attempt jobContext => cases h
        | markFailed code message retryable context attempt jobContext => cases h
        | _ => trivial
      | insertSubmission row => cases h
      | insertRegeneration parentId row => cases h
      | _ => trivial
    | _ => trivial
  submission _ _ _ _ _ := rfl
  regeneration _ _ _ _ _ _ _ _ _ := rfl

/-- The calls of a run are allowed in every mode. -/
theorem lettersSpec_of_runCall {g : Uuid} {o : Operation} (h : RunCall g o)
    (stored : Option Uuid) : lettersSpec.pre stored o := by
  cases o with
  | query q =>
    cases q with
    | onRow id st =>
      cases st with
      | transition toStatus context attempt jobContext => exact h.statement.2.target
      | markFailed code message retryable context attempt jobContext =>
        obtain h | h | h := h.statement.2 <;> cases h
      | _ => trivial
    | insertSubmission row => exact absurd h RunCall.not_insertSubmission
    | insertRegeneration parentId row => exact absurd h RunCall.not_insertRegeneration
    | _ => trivial
  | _ => trivial

/-- `xadd_dlq` stores the letter. -/
theorem letters_xaddDlq (g : Uuid) (attemptNo : Int) (payload : Json) (stored : Option Uuid) :
    (xaddDlq g attemptNo payload).run.wp lettersSpec (fun _ stored' => stored' = some g) stored := by
  refine wp_run_seq (R := fun r _ => r.isOk) ⟨trivial, fun r _ h => h.1⟩ (fun _ stored' _ => ?_)
    fun e _ h => by cases h
  exact ⟨trivial, fun r _ h => h.2⟩

/-- `send_to_dlq` stores the letter before it marks the row. -/
theorem letters_sendToDlq {P : Platform} {g : Uuid} (attemptNo : Int) (code text : String) :
    Safe lettersSpec (sendToDlq P g attemptNo code text) := by
  refine safe_bind (safe_perform fun _ => trivial) fun movedAt =>
    safe_bind (safe_perform fun _ => trivial) fun retryMovedAt stored => ?_
  rw [bind_eq, wp_bind]
  refine wp_mono (fun entry stored' hstored => ?_) (letters_xaddDlq g attemptNo _ stored)
  subst hstored
  rw [bind_eq, wp_bind]
  refine wp_mono (fun _ _ _ => trivial) ((only_markFailed (g := g) _ _ _ _ _ _).wp fun o ho => ?_)
  cases o with
  | query q =>
    cases q with
    | onRow id st =>
      cases st with
      | markFailed code message retryable context attempt jobContext =>
        obtain rfl : id = g := ho
        exact ⟨rfl, fun _ _ h => h⟩
      | _ => cases ho
    | _ => cases ho
  | _ => cases ho

/-- Every task follows the discipline. -/
theorem letters_spawned {l : Label} {p : Gateway Unit} (h : Spawned A l p) :
    Safe lettersSpec p := by
  obtain hreq | ⟨e, rfl, rfl⟩ := h.request_or_entry (letters_admits A.platform)
  · exact hreq
  · have hrun (jobId : Option Uuid) (attempt : Option Int) (jobContext : Option Json) :
        Safe lettersSpec (process A.platform (workerSteps A.platform A.webhookBaseUrl)
          e.fields.generationId jobId attempt jobContext).run :=
      (only_process attempt).safe fun o ho stored => lettersSpec_of_runCall ho stored
    refine safe_workerTask hrun ?_ letters_sendToDlq _
    intro stored o ho
    cases o with
    | command c => trivial
    | now => trivial
    | _ => cases ho

theorem fault_of_succeeds {c : Choice} (h : c.succeeds) : c.fault = .none := by
  unfold Choice.succeeds at h
  cases hf : c.fault <;> simp_all

/-- What a task has stored after a call. -/
def storedAfter (stored : Option Uuid) : Operation → Option Uuid
  | .command (.xaddDlq letter) => some letter.generationId
  | _ => stored

/-- A row that is failed after a statement was failed before, or its letter is
stored. -/
theorem failed_of_statement {stored : Option Uuid} {id : Uuid} {st : RowStatement}
    (hpre : lettersSpec.pre stored (.query (.onRow id st))) {g : MediaGeneration} {now : DateTime}
    {replies : MediaGen.PublicationReplies} {projectId : Int}
    (h : (st.row now replies projectId g).status = .failed) :
    g.status = .failed ∨ stored = some id := by
  obtain hs | ⟨_, _, _, _, rfl, _, hs⟩ | ⟨_, _, _, _, _, _, rfl, _, hs⟩ | ⟨_, _, hs⟩ :=
    row_status now replies projectId g st
  · exact .inl (hs ▸ h)
  · obtain rfl := hs.symm.trans h
    exact absurd (show MediaGenerationStatus.failed ∈ runTargets from hpre) (by decide)
  · exact .inr hpre
  · cases hs.symm.trans h

/-- Every step keeps the discipline. -/
theorem letters_kept : (letters A).Kept CallsSucceed where
  mono w v v' hv hinv := by
    refine ⟨hinv.1, fun i l id hi => ?_⟩
    obtain h | h := hv i
    · rw [h] at hi
      cases hi
    · exact hinv.2 i l id (h ▸ hi)
  act s f i c l o k hok hti hinv hpre := by
    have hfault : c.fault = .none := fault_of_succeeds hok
    refine ⟨storedAfter (f i) o, ?_, fun g hg hstatus => ?_, fun j lj id hj => ?_⟩
    · cases o with
      | command cmd =>
        cases cmd <;> simp [letters, lettersSpec, storedAfter, system, machine, Operation.exec,
          withFault, hfault, Command.exec, Except.isOk, Except.toBool]
      | _ => rfl
    · have hrow : ∀ g ∈ (o.exec s.world c).2.db.rows, g.status = .failed →
          HasLetter s.world g.id := by
        refine o.forall_rows_exec hinv.1 (fun q row ho hq _ hs => ?_)
          fun id st g ho hmem hid hs => ?_
        · subst ho
          obtain ⟨row', teacherId, rfl, rfl | ⟨parentId, rfl⟩⟩ := Query.inserted_cases hq
          all_goals
            have hqueued : row'.status = .queued := hpre
            cases hqueued.symm.trans hs
        · subst ho hid
          obtain h | hstored := failed_of_statement hpre hs
          · rw [RowStatement.row_id]
            exact hinv.1 g hmem h
          · exact hinv.2 i l _ (by simp [Discipline.view, hti, hstored])
      exact (hrow g hg hstatus).exec o c
    · by_cases hji : j = i
      · subst hji
        rw [Function.update_self] at hj
        obtain ⟨_, hstored⟩ := Prod.mk.inj (Option.some.inj hj)
        obtain ⟨letter, rfl⟩ | hsame : (∃ letter, o = .command (.xaddDlq letter)) ∨
            storedAfter (f j) o = f j := by
          cases o with
          | command cmd => cases cmd <;> first | exact .inl ⟨_, rfl⟩ | exact .inr rfl
          | _ => exact .inr rfl
        · cases hstored
          exact hasLetter_xaddDlq hfault letter
        · exact (hinv.2 j l id (by simp [Discipline.view, hti, ← hstored, hsame])).exec o c
      · rw [Function.update_of_ne hji] at hj
        exact (hinv.2 j lj id hj).exec o c
  arrive s f arr w spawned _ harr hinv := by
    obtain ⟨jobs, renderer, hw⟩ := arrive_world harr
    refine ⟨fun _ => none, fun j l p hj =>
      letters_spawned (spawned_of_arrive harr (List.mem_of_getElem? hj)) none, ?_⟩
    subst hw
    refine ⟨hinv.1, fun i l u hi => ?_⟩
    dsimp only at hi
    split at hi
    · exact hinv.2 i l u hi
    · simp at hi

/-- A failed generation has a dead letter in every state that is reached with
every call succeeding. -/
theorem hasLetter_of_failed {s : (system A).State} (hs : Reachable A CallsSucceed s) {id : Uuid}
    (hfailed : statusOf s.world id = some .failed) : HasLetter s.world id := by
  obtain ⟨w, hw, h⟩ := hs
  obtain ⟨f, hinv, _⟩ := Discipline.holds_of_reach letters_kept h
    (Discipline.holds_start ⟨fun g hg => (by rw [hw.rows] at hg; cases hg),
      fun _ _ _ hi => by cases hi⟩)
  obtain ⟨g, hg, hstatus⟩ := Option.map_eq_some_iff.1 hfailed
  exact Table.find_key hg ▸ hinv.1 g (Table.find_mem hg) hstatus

/-- With every call succeeding, a generation with no work left anywhere is not
terminal. -/
theorem open_of_quiescent {s : (system A).State} (hs : Reachable A CallsSucceed s) {id : Uuid}
    (hq : Quiescent s id) {status : MediaGenerationStatus}
    (hstatus : statusOf s.world id = some status) : status.isTerminal = false := by
  obtain ⟨g, hg, rfl⟩ := Option.map_eq_some_iff.1 hstatus
  obtain hearly | hfailed := ((rowsOk_of_reachable hs).row g (Table.find_mem hg)).status
  · exact MediaGenerationStatus.isTerminal_of_isEarly hearly
  · rw [hfailed] at hstatus
    obtain ⟨e, he, hid⟩ := hasLetter_of_failed hs hstatus
    exact absurd hid (hq.deadLetters e he)

/-- A request is created, a worker submits its render job and halts, and the
renderer reports the job as completed. -/
def completedJob : List ((system sampleGateway).Action) :=
  requestRead ++ calls 2 33 ++ [.arrive (.callback completedCallback)] ++ calls 3 3

/-- `Quiescent`, computed. -/
def quiescent (s : (system A).State) (id : Uuid) : Bool :=
  ((List.range s.next).all fun i => (s.tasks i).all fun t => t.label.generation != some id) &&
    s.world.redis.jobs.unread.all (fun e => e.fields.generationId != id) &&
    s.world.redis.jobs.entries.all (fun e => e.fields.generationId != id ||
      s.world.redis.jobs.pending.all fun p => p.id != e.id) &&
    s.world.redis.dlq.entries.all (fun e => e.fields.generationId != id) &&
    s.world.renderer.owed.all fun job => job.generationId != id

theorem quiescent_iff {ok : (system A).State → (system A).Action → Prop} {s : (system A).State}
    (hs : Reachable A ok s) (id : Uuid) : quiescent s id ↔ Quiescent s id := by
  obtain ⟨w, _, h⟩ := hs
  have htasks : (∀ i, i < s.next → ∀ t, s.tasks i = some t → t.label.generation ≠ some id) ↔
      ∀ i t, s.tasks i = some t → t.label.generation ≠ some id := by
    refine ⟨fun hlt i t ht => hlt i ?_ t ht, fun hall i _ => hall i⟩
    by_contra hle
    rw [Pool.tasks_of_le h i (Nat.le_of_not_lt hle)] at ht
    cases ht
  simp only [quiescent, Bool.and_eq_true, List.all_eq_true, List.mem_range, Option.all_eq_true,
    bne_iff_ne, Bool.or_eq_true, htasks, ne_eq]
  constructor
  · rintro ⟨⟨⟨⟨ht, hu⟩, hp⟩, hd⟩, hc⟩
    exact ⟨ht, hu, fun e he hid => (hp e he).resolve_left fun hne => hne hid, hd, hc⟩
  · rintro ⟨ht, hu, hp, hd, hc⟩
    exact ⟨⟨⟨⟨ht, hu⟩, fun e he => or_iff_not_imp_left.2 fun hne => hp e he (not_not.1 hne)⟩,
      hd⟩, hc⟩

/-- The state after `completedJob`. -/
theorem completedJob_reached :
    ∃ s : (system sampleGateway).State, Reachable sampleGateway CallsSucceed s ∧
      Quiescent s ⟨0⟩ ∧ statusOf s.world ⟨0⟩ = some .generating ∧
      s.world.renderer.reported.map (fun p => (p.jobId, p.status)) = [(⟨1⟩, "completed")] := by
  have hplay : ((Pool.play CallsSucceed ((system sampleGateway).start sampleWorld)
      completedJob).map fun s => (quiescent s ⟨0⟩, statusOf s.world ⟨0⟩,
        s.world.renderer.reported.map fun p => (p.jobId, p.status))) =
      some (true, some .generating, [(⟨1⟩, "completed")]) := by
    decide +kernel
  obtain ⟨s, hs, he⟩ := Pool.exists_of_play hplay
  obtain ⟨hq, he⟩ := Prod.mk.inj he
  obtain ⟨hstatus, hreported⟩ := Prod.mk.inj he
  have hreach : Reachable sampleGateway CallsSucceed s := ⟨_, initial_sampleWorld, hs⟩
  exact ⟨s, hreach, (quiescent_iff hreach _).1 hq, hstatus, hreported⟩

/-- The renderer has reported the job as completed, nothing is left to do, and
the generation is still `generating`. -/
theorem completed_job_left_generating :
    ∃ s : (system sampleGateway).State, Reachable sampleGateway CallsSucceed s ∧
      Quiescent s ⟨0⟩ ∧
      s.world.renderer.reported.map (fun p => (p.jobId, p.status)) = [(⟨1⟩, "completed")] ∧
      ¬ ∃ status, statusOf s.world ⟨0⟩ = some status ∧ status.isTerminal := by
  obtain ⟨s, hs, hq, hstatus, hreported⟩ := completedJob_reached
  refine ⟨s, hs, hq, hreported, ?_⟩
  rintro ⟨status, h, ht⟩
  rw [hstatus] at h
  cases h
  cases ht

/-- The history ends in an open generation by the theorem as well. -/
theorem open_of_quiescent_completedJob :
    ∃ (s : (system sampleGateway).State) (status : MediaGenerationStatus),
      statusOf s.world ⟨0⟩ = some status ∧ status.isTerminal = false := by
  obtain ⟨s, hs, hq, hstatus, _⟩ := completedJob_reached
  exact ⟨s, _, hstatus, open_of_quiescent hs hq hstatus⟩

end KlassGateway
