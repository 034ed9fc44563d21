import KlassGateway.Reachable
/-!
# Callbacks of old jobs

The webhook looks a generation up by the job id of the callback and then
writes to the row by its primary key, in up to three statements that do not
look at the job id again.

* `callback_changes_current`: a callback changes a row only while its job is
  the current one, as long as no other request assigns a job id between the
  lookup and the last write of a callback for the job that it replaces.
* `stale_callback_writes`: otherwise it writes its old job id back.
-/

namespace KlassGateway

open Lib Lib.Prog Db Orchestrator Queue MediaGen Api

variable {A : AppState}

/-! ## The condition -/

/-- The payload of a callback, if the task is one. -/
def Kind.callback : Kind → Option MediaWebhookPayload
  | .webhook payload => some payload
  | _ => none

theorem Kind.callback_eq_some {k : Kind} {payload : MediaWebhookPayload} :
    k.callback = some payload ↔ k = .webhook payload := by
  cases k <;> simp [callback]

/-- Whether a program is about to look up a job. -/
def looksUp : Gateway Unit → Bool
  | .op (.query (.findByJobId _)) _ => true
  | _ => false

/-- Whether a task is a callback for the job that is past its lookup. -/
def isWriting (jobId : Uuid) (t : Task (system A)) : Bool :=
  (t.label.kind.callback.any fun payload => payload.jobId == jobId) && !looksUp t.prog

/-- Whether a call assigns a new job id to a row while a callback for its
current job is writing. -/
def interrupts (s : (system A).State) : Operation → Bool
  | .query (.onRow id (.update (.generationJobStatus jobId _))) =>
    (s.world.db.row id).any fun g => g.generationJobId.any fun current =>
      jobId != some current &&
        (List.range s.next).any fun i => (s.tasks i).any (isWriting current)
  | _ => false

/-- No request but a callback assigns a new job id to a row while a callback
for its current job is writing. -/
def SparesCallbacks (s : (system A).State) (a : (system A).Action) : Prop :=
  (Pool.called s a).all fun lo => lo.1.kind.callback.isSome || !interrupts s lo.2

instance (s : (system A).State) (a : (system A).Action) : Decidable (SparesCallbacks s a) :=
  inferInstanceAs (Decidable (_ = true))

/-! ## The discipline -/

/-- Where a callback stands. -/
inductive CallbackMode where
  /-- Not a callback. -/
  | other
  /-- Before its lookup. -/
  | waiting (jobId : Uuid)
  /-- It has found a row. -/
  | found (jobId id : Uuid)
deriving Inhabited

/-- The job id that an update writes is the one given. -/
def WritesOnly (jobId : Uuid) : RowUpdate → Prop
  | .generationJobStatus written _ => written = some jobId
  | _ => True

/-- A callback looks its job up and then writes to the row that it has found,
with its own job id. -/
def callbackSpec : OpSpec effects CallbackMode where
  pre m o := match m, o with
    | .other, _ => True
    | .waiting jobId, .query (.findByJobId jobId') => jobId' = jobId
    | .waiting _, _ => False
    | .found jobId id, .query (.onRow id' (.update u)) => id' = id ∧ WritesOnly jobId u
    | .found _ _, .now => True
    | .found _ _, _ => False
  step m o r m' := match m, o, r with
    | .waiting jobId, .query (.findByJobId _), .ok (some g) => m' = .found jobId g.id
    | _, _, _ => m' = m

/-- The job of a row. -/
def HasJob (w : World) (id jobId : Uuid) : Prop :=
  ∃ g, w.db.row id = some g ∧ g.generationJobId = some jobId

/-- What is known about a task: a callback has not looked up its job yet, or it
has found a row whose current job is its own. -/
def CallbackOk (w : World) (l : Label) (m : CallbackMode) : Prop :=
  match l.kind.callback with
  | some payload => m = .waiting payload.jobId ∨
    ∃ id, m = .found payload.jobId id ∧ HasJob w id payload.jobId
  | none => m = .other

/-- The discipline of every task. -/
def callbacks (A : AppState) : Discipline (system A) CallbackMode where
  spec := callbackSpec
  inv w v := ∀ i l m, v i = some (l, m) → CallbackOk w l m

/-! ## Every program follows it -/

/-- What a callback may call after its lookup. -/
def WriteCall (jobId id : Uuid) (o : Operation) : Prop := callbackSpec.pre (.found jobId id) o

theorem only_callbackUpdate {jobId id : Uuid} {u : RowUpdate} (h : WritesOnly jobId u)
    (failure absent : String) :
    OnlyCalls (WriteCall jobId id) (updateRow id u failure absent).run := by
  refine safe_run_bind (safe_run_mapErr (only_query ⟨rfl, h⟩)) fun r => ?_
  cases r with
  | some g => exact safe_run_pure _
  | none => exact safe_run_throw _

theorem only_webhookCompleted (id : Uuid) (payload : MediaWebhookPayload) :
    OnlyCalls (WriteCall payload.jobId id) (webhookCompleted A id payload).run := by
  have hs3 : OnlyCalls (WriteCall payload.jobId id) (storeS3Metadata id payload).run := by
    unfold storeS3Metadata
    split
    · exact safe_run_bind (safe_run_liftM (only_utcNow trivial)) fun _ =>
        safe_run_mapErr (only_callbackUpdate (by exact trivial) _ _)
    · exact safe_run_pure _
  exact safe_run_bind hs3 fun _ =>
    safe_run_bind (safe_run_mapErr (only_callbackUpdate (by exact trivial) _ _)) fun _ =>
      safe_run_mapErr (only_callbackUpdate (by exact rfl) _ _)

theorem only_webhookFailed (id : Uuid) (payload : MediaWebhookPayload) :
    OnlyCalls (WriteCall payload.jobId id) (webhookFailed id payload).run :=
  safe_run_bind (safe_run_mapErr (only_callbackUpdate (by exact trivial) _ _)) fun _ =>
    safe_run_mapErr (only_callbackUpdate (by exact rfl) _ _)

/-- A program that calls what a callback may call follows the discipline. -/
theorem follows_of_only {α : Type} {jobId id : Uuid} {p : Gateway α}
    (h : OnlyCalls (WriteCall jobId id) p) {Q : α → CallbackMode → Prop} (hQ : ∀ a m, Q a m) :
    p.wp callbackSpec Q (.found jobId id) := by
  refine wp_mono (fun a m _ => hQ a m) (h.wp fun o ho => ⟨ho, fun r m' hstep => ?_⟩)
  cases o <;> exact hstep

/-- The handler follows it from before its lookup. -/
theorem follows_webhookHandler (payload : MediaWebhookPayload) :
    (respondWith (webhookHandler A payload)).wp callbackSpec (fun _ _ => True)
      (.waiting payload.jobId) := by
  refine (wp_bind _ _ _ _).2 ?_
  refine (wp_run_bind _ _ _ _).2 ((wp_run_mapErr _ _ _ _).2 ((wp_run_mapErr _ _ _ _).2
    ((wp_query _ _).2 ⟨rfl, fun r m hstep => ?_⟩)))
  match r with
  | .error e => trivial
  | .ok none => trivial
  | .ok (some g) =>
    have hm : m = .found payload.jobId g.id := hstep
    subst hm
    refine follows_of_only ?_ fun _ _ => trivial
    dsimp only
    split_ifs
    · exact safe_run_pure _
    · exact safe_run_bind (only_webhookCompleted _ _) fun _ => safe_run_pure _
    · exact safe_run_bind (only_webhookFailed _ _) fun _ => safe_run_pure _
    · exact safe_run_throw _

/-- Any other program does. -/
theorem follows_other (p : Gateway Unit) :
    p.wp callbackSpec (fun _ _ => True) .other := by
  refine wp_mono (fun _ _ _ => trivial) ((only_true p).wp fun o _ => ⟨trivial, fun r m' h => ?_⟩)
  cases o <;> exact h

/-- The mode in which a task starts. -/
def startMode (l : Label) : CallbackMode :=
  match l.kind.callback with
  | some payload => .waiting payload.jobId
  | none => .other

theorem follows_spawned {l : Label} {p : Gateway Unit} (h : Spawned A l p) :
    p.wp callbackSpec (fun _ _ => True) (startMode l) := by
  cases h with
  | webhook payload => exact follows_webhookHandler payload
  | _ => exact follows_other _

/-- A callback that has found its row has its lookup behind it. -/
theorem not_looksUp {p : Gateway Unit} {jobId id : Uuid}
    (h : p.wp callbackSpec (fun _ _ => True) (.found jobId id)) : looksUp p = false := by
  match p with
  | .ret _ => rfl
  | .abort => rfl
  | .op o k =>
    cases o with
    | query q =>
      cases q with
      | findByJobId jobId' => exact False.elim h.1
      | _ => rfl
    | _ => rfl

/-! ## The invariant -/

/-- A statement keeps the job id, or it writes it. -/
theorem row_jobId (g : MediaGeneration) (st : RowStatement) (now : DateTime)
    (replies : PublicationReplies) (projectId : Int) :
    (st.row now replies projectId g).generationJobId = g.generationJobId ∨
    ∃ jobId status, st = .update (.generationJobStatus jobId status) ∧
      (st.row now replies projectId g).generationJobId = jobId := by
  obtain h | ⟨u, rfl, h⟩ | ⟨_, _, _, h⟩ | ⟨_, _, _, _, _, _, _, h⟩ |
    ⟨_, _, _, _, _, _, _, _, _, _, h⟩ | ⟨_, _, _, _, _, _, _, _, h⟩ :=
      st.row_cases now replies projectId g
  case inr.inl =>
    cases u with
    | generationJobStatus jobId status => exact .inr ⟨jobId, status, rfl, rfl⟩
    | _ => exact .inl rfl
  all_goals exact .inl (by rw [h])

/-- A call keeps the job of a row, unless it writes another. -/
theorem HasJob.exec {w : World} {id jobId : Uuid} (h : HasJob w id jobId) {o : Operation}
    (ho : ∀ written status, o = .query (.onRow id (.update (.generationJobStatus written status))) →
      written = some jobId) (c : Choice) : HasJob (o.exec w c).2 id jobId := by
  obtain ⟨g, hg, hjob⟩ := h
  obtain hsame | ⟨st, rfl, hrow⟩ := o.exec_row c hg
  · exact ⟨g, hsame, hjob⟩
  · refine ⟨_, hrow, ?_⟩
    obtain hkeep | ⟨written, status, rfl, hwrite⟩ := row_jobId g st c.clock c.publication _
    · rw [hkeep, hjob]
    · rw [hwrite]
      exact ho written status rfl

/-- The mode of a task after a call. -/
def modeAfter (m : CallbackMode) (o : Operation) (r : o.Resp) : CallbackMode :=
  match m, o, r with
  | .waiting jobId, .query (.findByJobId _), .ok (some g) => .found jobId g.id
  | m, _, _ => m

theorem callbackSpec_step (m : CallbackMode) (o : Operation) (r : o.Resp) :
    callbackSpec.step m o r (modeAfter m o r) := by
  cases m with
  | other => cases o <;> rfl
  | found jobId id => cases o <;> rfl
  | waiting jobId =>
    cases o with
    | query q =>
      cases q with
      | findByJobId jobId' =>
        match r with
        | .ok (some g) => rfl
        | .ok none => rfl
        | .error _ => rfl
      | _ => rfl
    | _ => rfl

/-- The row that a lookup finds has the job. -/
theorem hasJob_of_lookup {w : World} (hw : RowsOk w) {jobId : Uuid} {c : Choice}
    {g : MediaGeneration}
    (h : (Operation.exec w (.query (.findByJobId jobId)) c).1 = .ok (some g)) :
    HasJob w g.id jobId := by
  have hfind : w.db.rows.find? (fun g => g.generationJobId == some jobId) = some g := by
    simp only [Operation.exec, withFault, Query.exec] at h
    cases hf : c.fault with
    | none =>
      rw [hf] at h
      exact Except.ok.inj h
    | failed m =>
      rw [hf] at h
      cases h
    | lost m =>
      rw [hf] at h
      cases h
  have hjob := List.find?_some hfind
  exact ⟨g, hw.row_of_mem (List.mem_of_find?_eq_some hfind), beq_iff_eq.1 hjob⟩

/-- What a call leaves known about its own task. -/
theorem CallbackOk.own {w : World} (hw : RowsOk w) {l : Label} {m : CallbackMode}
    (h : CallbackOk w l m) {o : Operation} (hpre : callbackSpec.pre m o) (c : Choice) :
    CallbackOk (o.exec w c).2 (l.after o) (modeAfter m o (o.exec w c).1) := by
  have hkind : (l.after o).kind = l.kind := by cases o <;> rfl
  unfold CallbackOk at h ⊢
  rw [hkind]
  cases hpayload : l.kind.callback with
  | none =>
    rw [hpayload] at h
    cases h
    rfl
  | some payload =>
    rw [hpayload] at h
    obtain rfl | ⟨id, rfl, hjob⟩ := h
    · -- The only call is the lookup.
      cases o with
      | query q =>
        cases q with
        | findByJobId jobId =>
          have hid : jobId = payload.jobId := hpre
          subst hid
          match hr : (Operation.exec w (.query (.findByJobId payload.jobId)) c).1 with
          | .ok (some g) =>
            exact .inr ⟨g.id, rfl, (hasJob_of_lookup hw hr).exec (fun _ _ he => by cases he) c⟩
          | .ok none => exact .inl rfl
          | .error _ => exact .inl rfl
        | _ => cases hpre
      | _ => cases hpre
    · refine .inr ⟨id, rfl, hjob.exec (fun written status he => ?_) c⟩
      subst he
      exact hpre.2

/-- A job id that a callback writes is the current one already. -/
theorem CallbackOk.writes {w : World} {l : Label} {m : CallbackMode} (h : CallbackOk w l m)
    {payload : MediaWebhookPayload} (hpayload : l.kind.callback = some payload) {id : Uuid}
    {u : RowUpdate} (hpre : callbackSpec.pre m (.query (.onRow id (.update u)))) :
    HasJob w id payload.jobId ∧ WritesOnly payload.jobId u := by
  unfold CallbackOk at h
  rw [hpayload] at h
  obtain rfl | ⟨id', rfl, hjob⟩ := h
  · cases hpre
  · obtain ⟨rfl, hu⟩ := hpre
    exact ⟨hjob, hu⟩

/-- The steps of the runs that the theorem is about. -/
def CallbackStep (s : (system A).State) (a : (system A).Action) : Prop :=
  (SparesCallbacks s a ∧ RowsOk s.world) ∧ ∀ i, s.next ≤ i → s.tasks i = none

/-- A task that is no callback does not overwrite the job of a callback that
has found its row. -/
theorem kept_of_spares {s : (system A).State} {f : Nat → CallbackMode} {i : Nat} {c : Choice}
    {l : Label} {o : Operation} {k : o.Resp → Gateway Unit}
    (hok : CallbackStep s (.act i c)) (hti : s.tasks i = some ⟨l, .op o k⟩)
    (hfollows : ∀ j t, s.tasks j = some t → (callbacks A).Follows t.prog (f j))
    (hl : l.kind.callback = none) {j : Nat} {t : Task (system A)} (htj : s.tasks j = some t)
    {payload : MediaWebhookPayload} (hpayload : t.label.kind.callback = some payload)
    {id : Uuid} (hfound : f j = .found payload.jobId id) (hjob : HasJob s.world id payload.jobId)
    {written : Option Uuid} {status : GenerationStatus}
    (ho : o = .query (.onRow id (.update (.generationJobStatus written status)))) :
    written = some payload.jobId := by
  obtain ⟨⟨hspares, _⟩, htasks⟩ := hok
  obtain ⟨g, hg, hcurrent⟩ := hjob
  have hcalled : Pool.called s (.act i c) = some (l, o) := Pool.called_act hti
  rw [SparesCallbacks, hcalled] at hspares
  by_contra hne
  have hwriting : isWriting payload.jobId t = true := by
    have hlook : looksUp t.prog = false := not_looksUp (hfound ▸ hfollows j t htj)
    simp [isWriting, hpayload, hlook]
  have hlt : j < s.next := by
    by_contra hge
    rw [htasks j (by omega)] at htj
    cases htj
  have hinterrupts : interrupts s o = true := by
    subst ho
    simp only [interrupts, hg, hcurrent, Option.any_some, Bool.and_eq_true, bne_iff_ne, ne_eq,
      List.any_eq_true, List.mem_range]
    exact ⟨hne, j, hlt, by rw [htj]; exact hwriting⟩
  have hspared : (l.kind.callback.isSome || !interrupts s o) = true := hspares
  rw [hl, hinterrupts] at hspared
  cases hspared

/-- What the call of another task leaves known. -/
theorem CallbackOk.other {w : World} {l : Label} {m : CallbackMode} (h : CallbackOk w l m)
    {o : Operation} (ho : ∀ payload id written status, l.kind.callback = some payload →
      m = .found payload.jobId id → HasJob w id payload.jobId →
      o = .query (.onRow id (.update (.generationJobStatus written status))) →
      written = some payload.jobId) (c : Choice) : CallbackOk (o.exec w c).2 l m := by
  unfold CallbackOk at h ⊢
  cases hpayload : l.kind.callback with
  | none =>
    rw [hpayload] at h
    exact h
  | some payload =>
    rw [hpayload] at h
    obtain hm | ⟨id, hm, hjob⟩ := h
    · exact .inl hm
    · exact .inr ⟨id, hm, hjob.exec (fun written status he =>
        ho payload id written status hpayload hm hjob he) c⟩

/-- The mode in which the `j`-th task of an arrival starts. -/
def spawnMode (spawned : List (Label × Gateway Unit)) (j : Nat) : CallbackMode :=
  (spawned[j]?.map fun lp => startMode lp.1).getD .other

theorem spawnMode_of_getElem? {spawned : List (Label × Gateway Unit)} {j : Nat} {l : Label}
    {p : Gateway Unit} (h : spawned[j]? = some (l, p)) : spawnMode spawned j = startMode l := by
  rw [spawnMode, h]
  rfl

theorem callbackOk_startMode (w : World) (l : Label) : CallbackOk w l (startMode l) := by
  unfold CallbackOk startMode
  cases l.kind.callback with
  | none => rfl
  | some payload => exact .inl rfl

/-- Every step keeps the discipline. -/
theorem callbacks_kept : (callbacks A).KeptAll CallbackStep where
  mono w v v' hv hinv i l m hi := by
    obtain h | h := hv i
    · rw [h] at hi
      cases hi
    · exact hinv i l m (h ▸ hi)
  act s f i c l o k hok hti hfollows hinv hpre := by
    have hown : CallbackOk s.world l (f i) := hinv i l (f i) (by simp [Discipline.view, hti])
    refine ⟨modeAfter (f i) o (o.exec s.world c).1, callbackSpec_step _ _ _, fun j lj m hj => ?_⟩
    by_cases hji : j = i
    · subst hji
      rw [Function.update_self] at hj
      obtain ⟨rfl, rfl⟩ := Prod.mk.inj (Option.some.inj hj)
      exact hown.own hok.1.2 hpre c
    · rw [Function.update_of_ne hji] at hj
      refine (hinv j lj m hj).other (fun payload id written status hpayload hm hjob he => ?_) c
      obtain ⟨t, htj, ht⟩ := Option.map_eq_some_iff.1 hj
      obtain ⟨rfl, rfl⟩ := Prod.mk.inj ht
      cases hl : l.kind.callback with
      | none => exact kept_of_spares hok hti hfollows hl htj hpayload hm hjob he
      | some payload' =>
        -- Both callbacks are for the current job of the row.
        subst he
        obtain ⟨⟨g, hg, hjob₁⟩, hwrites⟩ := hown.writes hl hpre
        obtain ⟨g', hg', hjob₂⟩ := hjob
        rw [hg] at hg'
        cases hg'
        rw [hwrites, ← hjob₁, hjob₂]
  arrive s f arr w spawned _ harr hinv := by
    obtain ⟨jobs, renderer, hw⟩ := arrive_world harr
    refine ⟨spawnMode spawned, fun j l p hj => ?_, fun i l m hi => ?_⟩
    · rw [spawnMode_of_getElem? hj]
      exact follows_spawned (spawned_of_arrive harr (List.mem_of_getElem? hj))
    · subst hw
      dsimp only at hi
      split at hi
      · exact hinv i l m hi
      · obtain ⟨⟨l', p⟩, hsp, he⟩ := Option.map_eq_some_iff.1 hi
        obtain ⟨rfl, rfl⟩ := Prod.mk.inj he
        rw [spawnMode_of_getElem? hsp]
        exact callbackOk_startMode _ _

/-- The discipline holds in the runs that spare callbacks. -/
theorem callbacks_holds {s : (system A).State} (hs : Reachable A SparesCallbacks s) :
    (callbacks A).Holds s := by
  obtain ⟨w, hw, h⟩ := hs.with_rowsOk
  have hrun := h.with_invariant fun _ ht => Pool.tasks_of_le ht
  exact callbacks_kept.holds_of_reach hrun
    (Discipline.holds_start (D := callbacks A) fun _ _ _ hi => by cases hi)

/-! ## The guarantee -/

/-- In a run in which no other request assigns a job id while a callback for the
current job is writing, what a call of a callback changes is a row whose
current job is that of the callback. -/
theorem callback_changes_current {s s' : (system A).State} {i : Nat} {c : Choice}
    {t : Task (system A)} {payload : MediaWebhookPayload} {id : Uuid} {g : MediaGeneration}
    (hs : Reachable A SparesCallbacks s) (hstep : Pool.step s (.act i c) = some s')
    (ht : s.tasks i = some t) (hk : t.label.kind = .webhook payload)
    (hg : s.world.db.row id = some g) :
    s'.world.db.row id = some g ∨ g.generationJobId = some payload.jobId := by
  obtain ⟨f, hinv, hfollows⟩ := callbacks_holds hs
  obtain ⟨arr, _, _, ha, _⟩ | ⟨j, c', l, o, k, ha, htj, rfl⟩ | ⟨j, _, ha, _⟩ :=
    Pool.step_cases hstep
  · cases ha
  · cases ha
    rw [htj] at ht
    cases ht
    have hown : CallbackOk s.world l (f i) := hinv i l (f i) (by simp [Discipline.view, htj])
    have hl : l.kind.callback = some payload := Kind.callback_eq_some.2 hk
    have hpre : callbackSpec.pre (f i) o := (hfollows i _ htj).1
    obtain hsame | ⟨st, rfl, _⟩ := Operation.exec_row c o hg
    · exact .inl hsame
    · cases st with
      | update u =>
        obtain ⟨⟨g', hg', hjob⟩, _⟩ := hown.writes hl hpre
        rw [hg] at hg'
        cases hg'
        exact .inr hjob
      | _ =>
        unfold CallbackOk at hown
        rw [hl] at hown
        obtain hm | ⟨id', hm, _⟩ := hown
        all_goals
          rw [hm] at hpre
          cases hpre
  · cases ha

/-- What a call of a task does to the job of the row with id zero: the job of the
callback that the task is, and the row's job before and after. -/
def jobsAround (s : (system sampleGateway).State) (i : Nat) :
    Option (Uuid × Option Uuid × Option Uuid) := do
  let t ← s.tasks i
  let payload ← t.label.kind.callback
  let g ← s.world.db.row ⟨0⟩
  let s' ← Pool.step s (.act i fine)
  let g' ← s'.world.db.row ⟨0⟩
  some (payload.jobId, g.generationJobId, g'.generationJobId)

theorem of_jobsAround {s : (system sampleGateway).State} {i : Nat} {jobId : Uuid}
    {before after : Option Uuid} (h : jobsAround s i = some (jobId, before, after)) :
    ∃ s' t payload g g', Pool.step s (.act i fine) = some s' ∧ s.tasks i = some t ∧
      t.label.kind = .webhook payload ∧ s.world.db.row ⟨0⟩ = some g ∧
      s'.world.db.row ⟨0⟩ = some g' ∧ payload.jobId = jobId ∧ g.generationJobId = before ∧
      g'.generationJobId = after := by
  obtain ⟨t, ht, h⟩ := Option.bind_eq_some_iff.1 h
  obtain ⟨payload, hk, h⟩ := Option.bind_eq_some_iff.1 h
  obtain ⟨g, hg, h⟩ := Option.bind_eq_some_iff.1 h
  obtain ⟨s', hstep, h⟩ := Option.bind_eq_some_iff.1 h
  obtain ⟨g', hg', h⟩ := Option.bind_eq_some_iff.1 h
  obtain ⟨rfl, rfl, rfl⟩ : payload.jobId = jobId ∧ g.generationJobId = before ∧
      g'.generationJobId = after := by simpa using h
  exact ⟨s', t, payload, g, g', hstep, ht, Kind.callback_eq_some.1 hk, hg, hg', rfl, rfl, rfl⟩

/-- The renderer has the job of the request, and its callback has found the row. -/
def callbackFound : List ((system sampleGateway).Action) :=
  requestRead ++ calls 2 33 ++ [.arrive (.callback completedCallback)] ++ calls 3 1

/-- A callback that nothing interrupts writes its own job id. -/
theorem callback_changes_current_completed :
    ∃ (s s' : (system sampleGateway).State) (t : Task (system sampleGateway))
      (payload : MediaWebhookPayload) (g : MediaGeneration),
      Pool.step s (.act 3 fine) = some s' ∧ s.tasks 3 = some t ∧
      t.label.kind = .webhook payload ∧ s.world.db.row ⟨0⟩ = some g ∧
      (s'.world.db.row ⟨0⟩ = some g ∨ g.generationJobId = some payload.jobId) := by
  have hplay : ((Pool.play SparesCallbacks ((system sampleGateway).start sampleWorld)
      (callbackFound ++ calls 3 1)).map fun s => jobsAround s 3) =
      some (some (⟨1⟩, some ⟨1⟩, some ⟨1⟩)) := by
    decide +kernel
  obtain ⟨s, hs, he⟩ := Pool.exists_of_play hplay
  obtain ⟨s', t, payload, g, _, hstep, ht, hk, hg, _⟩ := of_jobsAround he
  exact ⟨s, s', t, payload, g, hstep, ht, hk, hg,
    callback_changes_current ⟨_, initial_sampleWorld, hs⟩ hstep ht hk hg⟩

/-- The teacher skips the clarification between the writes of a callback, and
the last of them puts the old job back. -/
theorem stale_callback_writes :
    ∃ (s s' : (system sampleGateway).State) (t : Task (system sampleGateway))
      (payload : MediaWebhookPayload) (g : MediaGeneration),
      Reachable sampleGateway (fun _ _ => True) s ∧ Pool.step s (.act 3 fine) = some s' ∧
      s.tasks 3 = some t ∧ t.label.kind = .webhook payload ∧
      s.world.db.row ⟨0⟩ = some g ∧
      ¬ (s'.world.db.row ⟨0⟩ = some g ∨ g.generationJobId = some payload.jobId) := by
  have hplay : ((Pool.play (fun _ _ => True) ((system sampleGateway).start sampleWorld)
      (callbackFound ++ [.arrive (.skipClarification sampleTeacher ⟨0⟩)] ++ calls 4 6 ++
        calls 3 1)).map fun s => jobsAround s 3) =
      some (some (⟨1⟩, some ⟨2⟩, some ⟨1⟩)) := by
    decide +kernel
  obtain ⟨s, hs, he⟩ := Pool.exists_of_play hplay
  obtain ⟨s', t, payload, g, g', hstep, ht, hk, hg, hg', hjob, hbefore, hafter⟩ :=
    of_jobsAround he
  refine ⟨s, s', t, payload, g, ⟨_, initial_sampleWorld, hs⟩, hstep, ht, hk, hg, ?_⟩
  rintro (h | h)
  · rw [hg'] at h
    cases h
    rw [hbefore] at hafter
    cases hafter
  · rw [hbefore, hjob] at h
    cases h

end KlassGateway
