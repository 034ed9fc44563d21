import KlassGateway.Guarantees.JobOwners
import KlassGateway.Lib.Knowledge
/-!
# Every generation that is named has a row

The stream, the dead letters, the renderer and the tasks name generations by their ids alone.

* `knownRows` says which generations a call finds and names: a task names only generations that it
  has read or inserted, or that it was started for.
* `starts_with_rows`: every task follows it, from what is named when it starts.
* `named_rows_exist`: whatever is named in a run has a row.
* `rows_of_reachable`: what the rows of a run look like.
-/

namespace KlassGateway.NamedRows

open Lib Lib.Prog Db Orchestrator Queue MediaGen Api JobOwners

variable {A : AppState}

/-! ## What is named -/

/-- There is a row of the generation. -/
def HasRow (db : Database) (id : Uuid) : Prop := ∃ g, db.row id = some g

/-- The generation is named outside of the database. -/
inductive Mentions (w : World) (id : Uuid) : Prop
  | message (e : StreamEntry JobMessage) (hmem : e ∈ w.redis.jobs.entries)
      (hid : e.fields.generationId = id)
  | letter (e : StreamEntry DeadLetter) (hmem : e ∈ w.redis.dlq.entries)
      (hid : e.fields.generationId = id)
  | accepted (job : RenderJob) (hmem : job ∈ w.renderer.accepted) (hid : job.generationId = id)
  | owed (job : RenderJob) (hmem : job ∈ w.renderer.owed) (hid : job.generationId = id)
  | reported (payload : MediaWebhookPayload) (hmem : payload ∈ w.renderer.reported)
      (hid : payload.generationId = id)

/-- The generation that a call changes, or names to the queue or to the renderer. -/
def named : Operation → Option Uuid
  | .command (.xaddDlq letter) => some letter.generationId
  | o => o.target

/-- The generations whose rows a task knows from the answer of a call. -/
def foundIds : (o : Operation) → o.Resp → List Uuid
  | .query (.findById id), .ok (some (g : MediaGeneration)) => [id, g.id]
  | .query (.findByJobId _), .ok (some (g : MediaGeneration)) => [g.id]
  | .query (.findActiveDuplicate _ _), .ok (some (id : Uuid)) => [id]
  | .query (.insertSubmission row), .ok _ => [row.id]
  | .query (.insertRegeneration _ row), .ok _ => [row.id]
  | _, _ => []

/-- What the tasks of the gateway know about rows.  Beside it, every generation that the world
names has a row. -/
def knownRows (A : AppState) : Knowledge (system A) Uuid where
  holds w id := HasRow w.db id
  learns := foundIds
  needs o id := named o = some id
  inv w := (w.db.rows.map MediaGeneration.id).Nodup ∧ ∀ id, Mentions w id → HasRow w.db id

/-! ## Rows stay -/

theorem HasRow.exec {w : World} {id : Uuid} (h : HasRow w.db id) (o : Operation) (c : Choice) :
    HasRow (o.exec w c).2.db id := by
  obtain ⟨g, hg⟩ := h
  obtain hsame | ⟨st, -, hrow⟩ := o.exec_row c hg
  · exact ⟨g, hsame⟩
  · exact ⟨_, hrow⟩

theorem hasRow_of_owns {p : Principal} {db : Database} {id : Uuid} (h : Owns p db id) :
    HasRow db id := by
  obtain ⟨g, hg, -⟩ := h
  exact ⟨g, hg⟩

/-- What a query finds or inserts has a row. -/
theorem hasRow_of_query {db : Database} (hdistinct : (db.rows.map MediaGeneration.id).Nodup)
    {q : Query} {now : DateTime} {replies : PublicationReplies} {id : Uuid}
    (hid : id ∈ foundIds (.query q) (q.exec now replies db).1) :
    HasRow (q.exec now replies db).2 id := by
  cases q with
  | findById id' =>
    cases hrow : db.row id' with
    | none =>
      simp only [Query.exec, hrow] at hid
      cases hid
    | some g =>
      simp only [Query.exec, hrow] at hid ⊢
      have hkey : g.id = id' := Table.find_key hrow
      obtain rfl : id = id' := by
        rcases List.mem_cons.1 hid with rfl | hid
        · rfl
        · rw [List.mem_singleton.1 hid, hkey]
      exact ⟨g, hrow⟩
  | findByJobId jobId =>
    simp only [Query.exec] at hid ⊢
    cases hrow : db.rows.find? fun g => g.generationJobId == some jobId with
    | none =>
      rw [hrow] at hid
      cases hid
    | some g =>
      rw [hrow] at hid
      obtain rfl := List.mem_singleton.1 hid
      exact ⟨g, Table.find_of_mem hdistinct (List.mem_of_find?_eq_some hrow)⟩
  | findActiveDuplicate teacherId fingerprint =>
    simp only [Query.exec] at hid ⊢
    cases hnewest : Database.newest
        (db.rows.filter (Database.isActiveDuplicate teacherId fingerprint)) with
    | none =>
      rw [hnewest] at hid
      cases hid
    | some g =>
      rw [hnewest] at hid
      obtain rfl := List.mem_singleton.1 hid
      exact ⟨g, Table.find_of_mem hdistinct (List.mem_filter.1 (newest_mem hnewest)).1⟩
  | insertSubmission row =>
    cases hexec : db.insert now row with
    | mk r db' =>
      simp only [Query.exec, hexec] at hid ⊢
      cases r with
      | error e => cases hid
      | ok _ =>
        obtain rfl := List.mem_singleton.1 hid
        exact hasRow_of_owns (owns_of_insert (p := ⟨row.teacherId, ""⟩) hexec rfl rfl)
  | insertRegeneration parentId row =>
    cases hrow : db.row parentId with
    | none =>
      simp only [Query.exec, hrow] at hid
      cases hid
    | some parent =>
      cases hexec : db.insert now { row with teacherId := parent.teacherId } with
      | mk r db' =>
        simp only [Query.exec, hrow, hexec] at hid ⊢
        cases r with
        | error e => cases hid
        | ok _ =>
          obtain rfl := List.mem_singleton.1 hid
          have howned := owns_of_insert (p := ⟨parent.teacherId, ""⟩) hexec rfl rfl
          exact hasRow_of_owns howned
  | _ => cases hid

/-- What a call finds or inserts has a row after it. -/
theorem hasRow_of_found {w : World} (hdistinct : (w.db.rows.map MediaGeneration.id).Nodup)
    {o : Operation} {c : Choice} {id : Uuid} (hid : id ∈ foundIds o (o.exec w c).1) :
    HasRow (o.exec w c).2.db id := by
  cases o with
  | query q =>
    simp only [Operation.exec] at hid ⊢
    cases hfault : c.fault with
    | none =>
      simp only [hfault, withFault] at hid ⊢
      exact hasRow_of_query hdistinct hid
    | failed m =>
      simp only [hfault, withFault] at hid
      cases q <;> cases hid
    | lost m =>
      simp only [hfault, withFault] at hid
      cases q <;> cases hid
  | _ => cases hid

/-! ## What a step adds to the names -/

section Steps

variable {w : World} {id : Uuid}

/-- A command adds to the dead letters only what it names. -/
theorem letters_exec (r : Redis) (cmd : Command) :
    (cmd.exec r).2.dlq.entries = r.dlq.entries ∨ ∃ letter entryId, cmd = .xaddDlq letter ∧
      (cmd.exec r).2.dlq.entries = r.dlq.entries ++ [⟨entryId, letter⟩] := by
  cases cmd with
  | xaddDlq letter => exact Or.inr ⟨letter, _, rfl, rfl⟩
  | xgroupCreate =>
    unfold Command.exec Stream.createGroup
    cases r.jobs.group with
    | none => exact Or.inl rfl
    | some group => exact Or.inl rfl
  | xpending count =>
    simp only [Command.exec]
    split
    · exact Or.inl rfl
    · exact Or.inl rfl
  | _ => exact Or.inl rfl

/-- What is named after a call was named before, or the call names it. -/
theorem mentions_of_exec {o : Operation} (c : Choice) (h : Mentions (o.exec w c).2 id) :
    Mentions w id ∨ named o = some id := by
  cases h with
  | message e hmem hid =>
    obtain hredis | ⟨cmd, rfl, hredis⟩ := o.exec_redis w c
    · rw [hredis] at hmem
      exact Or.inl (.message e hmem hid)
    · rw [hredis] at hmem
      obtain hsame | ⟨message, entryId, rfl, hadded⟩ := entries_exec w.redis cmd
      · rw [hsame] at hmem
        exact Or.inl (.message e hmem hid)
      · rw [hadded] at hmem
        rcases List.mem_append.1 hmem with hold | hnew
        · exact Or.inl (.message e hold hid)
        · obtain rfl := List.mem_singleton.1 hnew
          exact Or.inr (congrArg some hid)
  | letter e hmem hid =>
    obtain hredis | ⟨cmd, rfl, hredis⟩ := o.exec_redis w c
    · rw [hredis] at hmem
      exact Or.inl (.letter e hmem hid)
    · rw [hredis] at hmem
      obtain hsame | ⟨letter, entryId, rfl, hadded⟩ := letters_exec w.redis cmd
      · rw [hsame] at hmem
        exact Or.inl (.letter e hmem hid)
      · rw [hadded] at hmem
        rcases List.mem_append.1 hmem with hold | hnew
        · exact Or.inl (.letter e hold hid)
        · obtain rfl := List.mem_singleton.1 hnew
          exact Or.inr (congrArg some hid)
  | accepted job hmem hid =>
    obtain hold | ⟨request, rfl, rfl⟩ := (renderJobs_exec w o c).1 job hmem
    · exact Or.inl (.accepted job hold hid)
    · exact Or.inr (congrArg some hid)
  | owed job hmem hid =>
    obtain hold | ⟨request, rfl, rfl⟩ := (renderJobs_exec w o c).2.1 job hmem
    · exact Or.inl (.owed job hold hid)
    · exact Or.inr (congrArg some hid)
  | reported payload hmem hid =>
    rw [(renderJobs_exec w o c).2.2] at hmem
    exact Or.inl (.reported payload hmem hid)

/-- An arrival names no other generation. -/
theorem mentions_of_arrive {arr : Arrival} {w' : World} {spawned : List (Label × Gateway Unit)}
    (harr : arrive A w arr = some (w', spawned)) (h : Mentions w' id) : Mentions w id := by
  cases arr with
  | readMessages consumer replyLost =>
    obtain ⟨⟨entries, jobs⟩, hread, he⟩ := Option.map_eq_some_iff.1 harr
    obtain ⟨rfl, -⟩ := Prod.mk.inj he
    obtain ⟨group, -, hread⟩ := Option.map_eq_some_iff.1 hread
    obtain ⟨-, rfl⟩ := Prod.mk.inj hread
    cases h with
    | message e hmem hid => exact .message e hmem hid
    | letter e hmem hid => exact .letter e hmem hid
    | accepted job hmem hid => exact .accepted job hmem hid
    | owed job hmem hid => exact .owed job hmem hid
    | reported payload hmem hid => exact .reported payload hmem hid
  | callback payload =>
    obtain ⟨renderer, hreport, he⟩ := Option.map_eq_some_iff.1 harr
    obtain ⟨rfl, -⟩ := Prod.mk.inj he
    unfold Renderer.report at hreport
    dsimp only at hreport
    split at hreport
    · next howed =>
      obtain rfl := Option.some.inj hreport
      cases h with
      | message e hmem hid => exact .message e hmem hid
      | letter e hmem hid => exact .letter e hmem hid
      | accepted job hmem hid => exact .accepted job hmem hid
      | owed job hmem hid => exact .owed job (List.mem_of_mem_erase hmem) hid
      | reported payload' hmem hid =>
        rcases List.mem_cons.1 hmem with rfl | hold
        · exact .owed _ howed hid
        · exact .reported payload' hold hid
    · cases hreport
  | duplicateCallback n =>
    obtain ⟨payload, -, he⟩ := Option.map_eq_some_iff.1 harr
    obtain ⟨rfl, -⟩ := Prod.mk.inj he
    exact h
  | _ =>
    obtain ⟨rfl, -⟩ := Prod.mk.inj (Option.some.inj harr)
    exact h

end Steps

/-! ## The tasks -/

/-- Calls that name one generation, whose row is known. -/
theorem follows_of_only {id : Uuid} {α : Type} {q : Gateway α}
    (hq : OnlyCalls (fun o => ∀ id', named o = some id' → id' = id) q) {ids : List Uuid}
    (hid : id ∈ ids) : q.wp (knownRows A).spec (fun _ _ => True) ids :=
  wp_mono (fun _ _ _ => trivial) (hq.wp_pre (J := (id ∈ ·)) hid fun _ o hids ho =>
    ⟨fun _ hnamed => ho _ hnamed ▸ hids, fun _ _ hstep =>
      Knowledge.persists id _ o _ _ hstep hids⟩)

/-- Calls that name nothing. -/
theorem safe_of_unnamed {α : Type} {q : Gateway α} (hq : OnlyCalls (fun o => named o = none) q) :
    Safe (knownRows A).spec q :=
  hq.safe fun _ ho _ _ hid => by cases ho.symm.trans hid

theorem named_of_entryCall {message : JobMessage} {o : Operation} (h : EntryCall message o)
    {id : Uuid} (hid : named o = some id) : id = message.generationId := by
  cases o with
  | query q =>
    cases q with
    | onRow id' st =>
      obtain rfl := Option.some.inj hid
      obtain ((((⟨rfl, -⟩ | h) | h) | ⟨j, -, h | ⟨request, h, -⟩⟩) | h) := h
      · rfl
      · cases h
      · cases h
      · cases h
      · cases h
      · cases st with
        | markFailed => exact h
        | _ => cases h
    | _ => cases hid
  | command command =>
    cases command with
    | xadd next =>
      obtain rfl := Option.some.inj hid
      exact h.1
    | xaddDlq letter =>
      obtain rfl := Option.some.inj hid
      exact h
    | _ => cases hid
  | postJob request =>
    obtain rfl := Option.some.inj hid
    obtain ((((h | h) | h) | ⟨j, -, h | ⟨request', h, hjob⟩⟩) | h) := h
    · cases h
    · cases h
    · cases h
    · cases h
    · obtain rfl := Operation.postJob.inj h
      rw [hjob]
    · cases h
  | _ => cases hid

theorem named_of_writeCall {jobId id : Uuid} (o : Operation) (h : WriteCall jobId id o) :
    ∀ id', named o = some id' → id' = id := by
  intro id' hid
  cases o with
  | query q =>
    cases q with
    | onRow id₁ st =>
      obtain rfl := Option.some.inj hid
      cases st with
      | update u => exact h.1
      | _ => cases h
    | _ => cases h
  | now => cases hid
  | _ => cases h

theorem unnamed_of_loop (o : Operation) (h : LoopCall o) : named o = none := by
  cases o with
  | command command =>
    cases command with
    | xadd message => cases h
    | xaddDlq letter => cases h
    | _ => rfl
  | _ => cases h

/-- What a request knows to be its own has a row. -/
theorem found_of_own {p : Principal} {o : Operation} {r : o.Resp} {id : Uuid}
    (hid : id ∈ ownIds p o r) : id ∈ foundIds o r := by
  cases o with
  | query q =>
    cases q with
    | findById id' =>
      match r with
      | .error _ => cases hid
      | .ok none => cases hid
      | .ok (some g) =>
        change id ∈ (if g.teacherId = p.userId then [id', g.id] else []) at hid
        split at hid
        · exact hid
        · cases hid
    | findActiveDuplicate teacherId fingerprint =>
      match r with
      | .error _ => cases hid
      | .ok none => cases hid
      | .ok (some id') =>
        change id ∈ (if teacherId = p.userId then [id'] else []) at hid
        split at hid
        · exact hid
        · cases hid
    | insertSubmission row =>
      cases r with
      | error _ => cases hid
      | ok _ => exact hid
    | insertRegeneration parentId row =>
      cases r with
      | error _ => cases hid
      | ok _ => exact hid
    | _ => cases hid
  | _ => cases hid

/-- A request that changes only its own rows names only rows that it knows. -/
theorem follows_of_own {p : Principal} {α : Type} {q : Gateway α} {ids : List Uuid}
    (h : q.wp (ownSpec p) (fun _ _ => True) ids) :
    q.wp (knownRows A).spec (fun _ _ => True) ids := by
  refine wp_mono (fun _ _ _ => trivial) (wp_simulates (R := (· ⊆ ·))
    (fun ids ids' o hsub hpre => ?_) (fun ids ids' o r ids₁ hsub hstep => ⟨_, rfl, ?_⟩)
    (List.Subset.refl ids) h)
  · intro id hid
    obtain hlook | ⟨-, hown⟩ := hpre
    · cases o with
      | command command =>
        cases command with
        | connect => cases hid
        | _ => cases hlook
      | _ => cases (target_of_look hlook).symm.trans hid
    · cases o with
      | query q =>
        cases q with
        | insertSubmission row => cases hid
        | insertRegeneration parentId row => cases hid
        | _ =>
          obtain ⟨id', hin, htarget⟩ := hown
          obtain rfl := Option.some.inj (htarget.symm.trans hid)
          exact hsub hin
      | command command =>
        obtain ⟨id', hin, htarget⟩ := hown
        cases command with
        | xadd message =>
          obtain rfl := Option.some.inj (htarget.symm.trans hid)
          exact hsub hin
        | _ => cases htarget
      | _ =>
        obtain ⟨id', hin, htarget⟩ := hown
        obtain rfl := Option.some.inj (htarget.symm.trans hid)
        exact hsub hin
  · subst hstep
    exact List.append_subset.2 ⟨fun id hid => List.mem_append_left _ (found_of_own hid),
      List.Subset.trans hsub (List.subset_append_right _ _)⟩

/-- A callback names the row that it has found. -/
theorem safe_webhookHandler (payload : MediaWebhookPayload) :
    Safe (knownRows A).spec (webhookHandler A payload).run := by
  refine fun ids => (wp_run_bind _ _ _ _).2 ((wp_run_mapErr _ _ _ _).2 ((wp_run_mapErr _ _ _ _).2
    ((wp_query _ _).2 ⟨fun _ hid => (by cases hid), fun r ids' hstep => ?_⟩)))
  match r with
  | .error e => trivial
  | .ok none => trivial
  | .ok (some row) =>
    have hin : row.id ∈ ids' := by
      subst hstep
      exact List.mem_cons_self
    suffices hwrites : OnlyCalls (WriteCall payload.jobId row.id) _ from
      follows_of_only (hwrites.mono named_of_writeCall) hin
    dsimp only
    split_ifs
    · exact safe_run_pure _
    · exact safe_run_bind (only_webhookCompleted _ _) fun _ => safe_run_pure _
    · exact safe_run_bind (only_webhookFailed _ _) fun _ => safe_run_pure _
    · exact safe_run_throw _

/-- Every task follows the discipline, from what is named when it starts. -/
theorem starts_with_rows {w w' : World} {arr : Arrival} {spawned : List (Label × Gateway Unit)}
    (harr : arrive A w arr = some (w', spawned)) {l : Label} {q : Gateway Unit}
    (hlq : (l, q) ∈ spawned) :
    ∃ ids, (∀ id ∈ ids, Mentions w id) ∧ q.wp (knownRows A).spec (fun _ _ => True) ids := by
  have unaware {q' : Gateway Unit} (hq : q'.wp (knownRows A).spec (fun _ _ => True) []) :
      ∃ ids, (∀ id ∈ ids, Mentions w id) ∧ q'.wp (knownRows A).spec (fun _ _ => True) ids :=
    ⟨[], fun _ hid => absurd hid List.not_mem_nil, hq⟩
  cases spawned_of_arrive harr hlq with
  | create p payload => exact unaware (follows_of_own (own_respondWith (own_create payload [])))
  | regenerate p id prompt =>
    exact unaware (follows_of_own (own_respondWith (own_regenerate id prompt [])))
  | confirm p payload => exact unaware (follows_of_own (own_respondWith (own_confirm payload [])))
  | skipClarification p id =>
    exact unaware (follows_of_own (own_respondWith (own_skipClarification id [])))
  | bootWorker =>
    exact unaware (safe_of_unnamed
      (safe_bind (loop_createConsumerGroup.mono unnamed_of_loop) fun _ => safe_ret _) _)
  | claimPending consumer =>
    exact unaware (safe_of_unnamed
      (safe_bind ((loop_claimPending consumer).mono unnamed_of_loop) fun _ => safe_ret _) _)
  | webhook payload =>
    exact unaware (safe_bind (safe_webhookHandler payload) (fun _ => safe_ret _) [])
  | entry e =>
    obtain ⟨e', hmem, hfields⟩ := entry_of_arrive harr hlq rfl
    refine ⟨[e.fields.generationId], fun id hid => ?_, follows_of_only
      ((JobOwners.only_workerTask _).mono fun o h _ => named_of_entryCall h)
      (List.mem_singleton_self _)⟩
    rw [List.mem_singleton.1 hid, ← hfields]
    exact .message e' hmem rfl

/-! ## The result -/

theorem lawful_knownRows : (knownRows A).Lawful where
  holds_exec w o c id h := h.exec o c
  learned w o c id h hid := hasRow_of_found h.1 hid
  inv_exec w o c h hneeds := by
    refine ⟨?_, fun id hid => ?_⟩
    · have hrows : OwnRows ⟨0, ""⟩ w [] := ⟨h.1, fun _ hid => absurd hid List.not_mem_nil⟩
      exact (hrows.exec o c).distinct
    · obtain hold | hnew := mentions_of_exec c hid
      · exact (h.2 id hold).exec o c
      · exact (hneeds id hnew).exec o c
  holds_arrive w arr w' spawned id harr h := by
    obtain ⟨jobs, renderer, rfl⟩ := arrive_world harr
    exact h
  inv_arrive w arr w' spawned harr h := by
    refine ⟨?_, fun id hid => ?_⟩
    · obtain ⟨jobs, renderer, rfl⟩ := arrive_world harr
      exact h.1
    · have hrow := h.2 id (mentions_of_arrive harr hid)
      obtain ⟨jobs, renderer, rfl⟩ := arrive_world harr
      exact hrow

theorem not_mentions_of_initial {w : World} (hw : Initial w) (id : Uuid) : ¬ Mentions w id := by
  intro h
  cases h with
  | message e hmem => rw [hw.redis] at hmem; cases hmem
  | letter e hmem => rw [hw.redis] at hmem; cases hmem
  | accepted job hmem => rw [hw.renderer] at hmem; cases hmem
  | owed job hmem => rw [hw.renderer] at hmem; cases hmem
  | reported payload hmem => rw [hw.renderer] at hmem; cases hmem

/-- In any run, every generation that the stream, the dead letters or the renderer name has a row,
and so has every generation that the next call of a task changes, queues, buries or submits: no
statement ever misses its row. -/
theorem named_rows_exist {ok : (system A).State → (system A).Action → Prop}
    {s : (system A).State} (hs : Reachable A ok s) :
    (∀ id, Mentions s.world id → HasRow s.world.db id) ∧
    ∀ i l o k, s.tasks i = some ⟨l, .op o k⟩ → ∀ id, named o = some id →
      HasRow s.world.db id := by
  obtain ⟨w, hw, hreach⟩ := hs
  have hstart : (knownRows A).inv w := by
    refine ⟨?_, fun id hid => absurd hid (not_mentions_of_initial hw id)⟩
    rw [hw.rows]
    exact List.nodup_nil
  obtain ⟨hinv, hneeds⟩ := lawful_knownRows.needs_hold (fun w arr w' spawned harr h l p hlp => by
    obtain ⟨ids, hids, hp⟩ := starts_with_rows harr hlp
    exact ⟨ids, fun id hid => h.2 id (hids id hid), hp⟩) hstart hreach
  exact ⟨hinv.2, hneeds⟩

/-- The first message of the stream, and the run for it. -/
theorem named_rows_exist_sample : ∃ (s : (system sampleGateway).State) (e : StreamEntry JobMessage),
    e ∈ s.world.redis.jobs.entries ∧ HasRow s.world.db e.fields.generationId := by
  have hplay : ((Pool.play (fun _ _ => True) ((system sampleGateway).start sampleWorld)
      requestRead).map fun s => s.world.redis.jobs.entries.length) = some 1 := by rfl
  obtain ⟨s, hs, hlength⟩ := Pool.exists_of_play hplay
  obtain ⟨e, he⟩ := List.length_eq_one_iff.1 hlength
  have hmem : e ∈ s.world.redis.jobs.entries := by
    rw [he]
    exact List.mem_singleton_self _
  exact ⟨s, e, hmem, (named_rows_exist ⟨_, initial_sampleWorld, hs⟩).1 _ (.message e hmem rfl)⟩

/-- In any run, no two generations share an id or a fingerprint, each holds the duplicate key of its
fingerprint for good, and none gets further than `generating`. -/
theorem rows_of_reachable {ok : (system A).State → (system A).Action → Prop}
    {s : (system A).State} (hs : Reachable A ok s) :
    (s.world.db.rows.map MediaGeneration.id).Nodup ∧
    (s.world.db.rows.map MediaGeneration.requestFingerprint).Nodup ∧
    ∀ g ∈ s.world.db.rows, g.activeDuplicateKey = some g.requestFingerprint ∧
      g.status ∈ [MediaGenerationStatus.queued, .interpreting, .classified, .generating,
        .failed] := by
  have hrows := rowsOk_of_reachable hs
  refine ⟨hrows.ids, hrows.fingerprints, fun g hg => ⟨(hrows.row g hg).key, ?_⟩⟩
  have hstatus := (hrows.row g hg).status
  revert hstatus
  cases g.status <;> decide

/-- The row of a request whose run has failed. -/
theorem rows_of_reachable_sample : ∃ (s : (system sampleGateway).State) (row : MediaGeneration),
    row ∈ s.world.db.rows ∧ row.status = .failed ∧
      row.activeDuplicateKey = some row.requestFingerprint := by
  have hplay : ((Pool.play (fun _ _ => True) ((system sampleGateway).start sampleWorld)
      requestFailed).map fun s => s.world.db.rows.head?.map MediaGeneration.status) =
      some (some .failed) := by decide +kernel
  obtain ⟨s, hs, hstatus⟩ := Pool.exists_of_play hplay
  obtain ⟨row, hrow, hfailed⟩ := Option.map_eq_some_iff.1 hstatus
  have hmem := List.mem_of_head? hrow
  exact ⟨s, row, hmem, hfailed,
    ((rows_of_reachable ⟨_, initial_sampleWorld, hs⟩).2.2 row hmem).1⟩

end KlassGateway.NamedRows
