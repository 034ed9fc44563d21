import KlassGateway.Requests
import KlassGateway.Rows
/-!
# Every reachable state

What holds of the rows in every reachable state, whatever the faults, the
crashes and the order of the steps (`RowsOk`):

* ids are distinct and were drawn before;
* the duplicate key of a row is its fingerprint, from its insertion on, and
  fingerprints are distinct;
* the lifecycle status is one of `queued`, `interpreting`, `classified`,
  `generating` and `failed`.

The discipline `basics` carries this: its mode is the last UUID that a task has
drawn, which is the id of the row that it may insert.
-/

namespace KlassGateway

open Lib Lib.Prog Db Orchestrator Queue Api

/-- What holds of a row when ids up to `bound` have been drawn. -/
structure RowOk (bound : Nat) (g : MediaGeneration) : Prop where
  id : g.id.value < bound
  key : g.activeDuplicateKey = some g.requestFingerprint
  status : g.status.isEarly ∨ g.status = .failed

/-- What holds of the rows of a reachable world. -/
structure RowsOk (w : World) : Prop where
  row : ∀ g ∈ w.db.rows, RowOk w.nextUuid g
  ids : (w.db.rows.map MediaGeneration.id).Nodup
  fingerprints : (w.db.rows.map MediaGeneration.requestFingerprint).Nodup

theorem RowsOk.of_initial {w : World} (h : Initial w) : RowsOk w := by
  refine ⟨fun g hg => ?_, ?_, ?_⟩
  · rw [h.rows] at hg
    cases hg
  · rw [h.rows]
    exact List.nodup_nil
  · rw [h.rows]
    exact List.nodup_nil

/-! ## Row statements -/

section RowStatement

variable (now : DateTime) (replies : MediaGen.PublicationReplies) (projectId : Int)

/-- A statement keeps the id, the fingerprint and the duplicate key. -/
theorem row_identity (g : MediaGeneration) (s : RowStatement) :
    (s.row now replies projectId g).id = g.id ∧
    (s.row now replies projectId g).teacherId = g.teacherId ∧
    (s.row now replies projectId g).requestFingerprint = g.requestFingerprint ∧
    (s.row now replies projectId g).activeDuplicateKey = g.activeDuplicateKey := by
  obtain h | ⟨u, _, h⟩ | ⟨_, _, _, h⟩ | ⟨_, _, _, _, _, _, _, h⟩ |
    ⟨_, _, _, _, _, _, _, _, _, _, h⟩ | ⟨_, _, _, _, _, _, _, _, h⟩ :=
      s.row_cases now replies projectId g
  case inr.inl => rw [h]; cases u <;> exact ⟨rfl, rfl, rfl, rfl⟩
  all_goals rw [h]; exact ⟨rfl, rfl, rfl, rfl⟩

/-- The status after a statement: the old one, the target of a legal
transition, `failed` of a row that is neither completed nor cancelled, or
`queued` after a reset. -/
theorem row_status (g : MediaGeneration) (s : RowStatement) :
    (s.row now replies projectId g).status = g.status ∨
    (∃ toStatus context attempt jobContext, s = .transition toStatus context attempt jobContext ∧
      g.status.canTransition toStatus ∧ (s.row now replies projectId g).status = toStatus) ∨
    (∃ code message retryable context attempt jobContext,
      s = .markFailed code message retryable context attempt jobContext ∧
      (g.status ≠ .completed ∧ g.status ≠ .cancelled) ∧
      (s.row now replies projectId g).status = .failed) ∨
    (∃ prompt, s = .update (.resetForReprocessing prompt) ∧
      (s.row now replies projectId g).status = .queued) := by
  obtain h | ⟨u, rfl, h⟩ | ⟨_, _, _, h⟩ | ⟨_, _, _, _, _, rfl, hedge, h⟩ |
    ⟨_, _, _, _, _, _, _, _, rfl, hopen, h⟩ | ⟨_, _, _, _, _, _, _, _, h⟩ :=
      s.row_cases now replies projectId g
  · exact .inl (by rw [h])
  · cases u with
    | resetForReprocessing prompt => exact .inr (.inr (.inr ⟨prompt, rfl, by rw [h]; rfl⟩))
    | _ => exact .inl (by rw [h]; rfl)
  · exact .inl (by rw [h])
  · obtain hsame | hedge := hedge
    · exact .inl (by rw [h, hsame])
    · exact .inr (.inl ⟨_, _, _, _, rfl, hedge, by rw [h]⟩)
  · exact .inr (.inr (.inl ⟨_, _, _, _, _, _, rfl, hopen, by rw [h]⟩))
  · exact .inl (by rw [h])

end RowStatement

/-- From a status that can be reached, the targets of a run lead to one. -/
theorem isEarly_of_runTarget {s t : MediaGenerationStatus} (hs : s.isEarly ∨ s = .failed)
    (ht : t ∈ runTargets) (h : s.canTransition t) : t.isEarly := by
  revert hs ht h
  cases s <;> cases t <;> decide

/-! ## The discipline -/

variable {A : AppState}

/-- Ids are drawn before they are inserted, and transitions are those of a
run. -/
def basicsSpec : OpSpec effects (Option Uuid) where
  pre drawn o := match o with
    | .query (.insertSubmission row) => IsNew row ∧ drawn = some row.id
    | .query (.insertRegeneration _ row) => IsNew row ∧ drawn = some row.id
    | .query (.onRow _ (.transition toStatus _ _ _)) => toStatus ∈ runTargets
    | _ => True
  step drawn o r drawn' := match o, r with
    | .newUuid, u => drawn' = some u
    | _, _ => drawn' = drawn

/-- The discipline of every task. -/
def basics (A : AppState) : Discipline (system A) (Option Uuid) where
  spec := basicsSpec
  inv w v := RowsOk w ∧ ∀ i l u, v i = some (l, some u) → u.value < w.nextUuid

/-- Every statement that the discipline allows keeps a row as it should be. -/
theorem RowOk.statement {bound : Nat} {g : MediaGeneration} (hg : RowOk bound g) {id : Uuid}
    {st : RowStatement} {drawn : Option Uuid}
    (hpre : basicsSpec.pre drawn (.query (.onRow id st))) (now : DateTime)
    (replies : MediaGen.PublicationReplies) (projectId : Int) :
    RowOk bound (st.row now replies projectId g) := by
  obtain ⟨hid, _, hfp, hkey⟩ := row_identity now replies projectId g st
  refine ⟨by rw [hid]; exact hg.id, by rw [hkey, hfp]; exact hg.key, ?_⟩
  obtain h | ⟨_, _, _, _, rfl, hedge, h⟩ | ⟨_, _, _, _, _, _, _, _, h⟩ | ⟨_, _, h⟩ :=
    row_status now replies projectId g st
  · rw [h]
    exact hg.status
  · rw [h]
    exact .inl (isEarly_of_runTarget hg.status hpre hedge)
  · rw [h]
    exact .inr rfl
  · rw [h]
    exact .inl rfl

/-- The row that a call inserts is new, and its id was drawn. -/
theorem isNew_of_inserted {db : Database} {q : Query} {row : MediaGeneration}
    {drawn : Option Uuid} (hpre : basicsSpec.pre drawn (.query q))
    (hq : q.inserted db = some row) : IsNew row ∧ drawn = some row.id := by
  obtain ⟨row', teacherId, rfl, rfl | ⟨parentId, rfl⟩⟩ := Query.inserted_cases hq
  all_goals
    obtain ⟨⟨hk, hs, hi, hd, hsp⟩, hid⟩ := hpre
    exact ⟨⟨hk, hs, hi, hd, hsp⟩, hid⟩

/-- A call of a task keeps the rows as they should be. -/
theorem RowsOk.exec {w : World} (hw : RowsOk w) {drawn : Option Uuid}
    (hdrawn : ∀ u, drawn = some u → u.value < w.nextUuid) {o : Operation}
    (hpre : basicsSpec.pre drawn o) (c : Choice) : RowsOk (o.exec w c).2 := by
  have hnext : w.nextUuid ≤ (o.exec w c).2.nextUuid := by
    obtain h | ⟨_, h⟩ := o.exec_nextUuid w c <;> omega
  have hrow : ∀ g ∈ (o.exec w c).2.db.rows, RowOk w.nextUuid g := by
    refine o.forall_rows_exec hw.row (fun q row ho hq _ => ?_) fun id st g ho hmem _ => ?_
    · subst ho
      obtain ⟨hnew, hid⟩ := isNew_of_inserted hpre hq
      refine ⟨hdrawn _ hid, hnew.key, .inl ?_⟩
      change row.status.isEarly = true
      rw [hnew.status]
      rfl
    · subst ho
      exact (hw.row g hmem).statement hpre _ _ _
  refine ⟨fun g hg => ?_, ?_, ?_⟩
  · obtain ⟨hid, hkey, hstatus⟩ := hrow g hg
    exact ⟨Nat.lt_of_lt_of_le hid hnext, hkey, hstatus⟩
  · obtain hdb | ⟨q, rfl, hdb⟩ := o.exec_db w c
    · rw [hdb]
      exact hw.ids
    · rw [hdb]
      exact q.nodup_exec _ _ _ hw.ids (fun row _ hf g hg => (Query.keys_free hf g hg).1)
        fun s g => (row_identity _ _ _ g s).1
  · obtain hdb | ⟨q, rfl, hdb⟩ := o.exec_db w c
    · rw [hdb]
      exact hw.fingerprints
    · rw [hdb]
      refine q.nodup_exec _ _ _ hw.fingerprints (fun row hq hf g hg he => ?_)
        fun s g => (row_identity _ _ _ g s).2.2.1
      -- The keys are the fingerprints, and the unique index holds for the keys.
      have hkey := (isNew_of_inserted hpre hq).1.key
      refine (Query.keys_free hf g hg).2 (by rw [hkey]; rfl) ?_
      rw [hkey, (hw.row g hg).key]
      exact congrArg some he

/-! ## Every program follows it -/

/-- The handlers may call what they call. -/
theorem basics_admits (P : Platform) : Admits P basicsSpec where
  handler drawn o h := by
    cases o with
    | query q =>
      cases q with
      | onRow id st =>
        cases st with
        | transition toStatus context attempt jobContext => cases h
        | _ => trivial
      | insertSubmission row => cases h
      | insertRegeneration parentId row => cases h
      | _ => trivial
    | _ => trivial
  submission _ id _ input hd := ⟨isNew_toRow input id, hd⟩
  regeneration _ _ parent _ id _ prompt _ hd := ⟨isNew_regenerationRow parent prompt id, hd⟩

/-- A worker may call what its run calls. -/
theorem basicsSpec_of_runCall {g : Uuid} {o : Operation} (h : RunCall g o)
    (drawn : Option Uuid) : basicsSpec.pre drawn o := by
  cases o with
  | query q =>
    cases q with
    | onRow id st =>
      cases st with
      | transition toStatus context attempt jobContext => exact h.statement.2.target
      | _ => trivial
    | insertSubmission row => exact absurd h RunCall.not_insertSubmission
    | insertRegeneration parentId row => exact absurd h RunCall.not_insertRegeneration
    | _ => trivial
  | _ => trivial

/-- A task may also call what it calls after its run. -/
theorem basicsSpec_of_tailCall {g : Uuid} {o : Operation} (h : TailCall g o)
    (drawn : Option Uuid) : basicsSpec.pre drawn o := by
  cases o with
  | query q =>
    obtain h | h := h
    · cases h
    · cases q with
      | onRow id st =>
        cases st with
        | transition toStatus context attempt jobContext => cases h
        | _ => trivial
      | insertSubmission row => cases h
      | insertRegeneration parentId row => cases h
      | _ => trivial
  | _ => trivial

/-- Every task follows the discipline. -/
theorem safe_spawned {l : Label} {p : Gateway Unit} (h : Spawned A l p) : Safe basicsSpec p := by
  obtain hreq | ⟨e, rfl, rfl⟩ := h.request_or_entry (basics_admits A.platform)
  · exact hreq
  · exact (only_workerTask _ _ _).safe fun _ ho drawn =>
      ho.elim (basicsSpec_of_runCall · drawn) (basicsSpec_of_tailCall · drawn)

/-! ## The invariant -/

/-- What a task has drawn after a call. -/
def drawnAfter (drawn : Option Uuid) (o : Operation) (r : o.Resp) : Option Uuid :=
  match o, r with
  | .newUuid, u => some u
  | _, _ => drawn

/-- Every step keeps the discipline. -/
theorem basics_kept (ok : (system A).State → (system A).Action → Prop) : (basics A).Kept ok where
  mono w v v' hv hinv := by
    refine ⟨hinv.1, fun i l u hi => ?_⟩
    obtain h | h := hv i
    · rw [h] at hi
      cases hi
    · exact hinv.2 i l u (h ▸ hi)
  act s f i c l o k _ hti hinv hpre := by
    have hdrawn (u : Uuid) (hu : f i = some u) : u.value < s.world.nextUuid :=
      hinv.2 i l u (by simp [Discipline.view, hti, hu])
    have hnext : s.world.nextUuid ≤ (o.exec s.world c).2.nextUuid := by
      obtain h | ⟨_, h⟩ := o.exec_nextUuid s.world c <;> omega
    refine ⟨drawnAfter (f i) o (o.exec s.world c).1, ?_,
      hinv.1.exec hdrawn hpre c, fun j lj u hj => ?_⟩
    · cases o <;> rfl
    · by_cases hji : j = i
      · subst hji
        rw [Function.update_self] at hj
        obtain ⟨_, hu⟩ := Prod.mk.inj (Option.some.inj hj)
        cases o with
        | newUuid =>
          cases hu
          exact Nat.lt_succ_self _
        | _ => exact Nat.lt_of_lt_of_le (hdrawn u hu) hnext
      · rw [Function.update_of_ne hji] at hj
        exact Nat.lt_of_lt_of_le (hinv.2 j lj u hj) hnext
  arrive s f arr w spawned _ harr hinv := by
    obtain ⟨jobs, renderer, hw⟩ := arrive_world harr
    refine ⟨fun _ => none, fun j l p hj =>
      safe_spawned (spawned_of_arrive harr (List.mem_of_getElem? hj)) none, ?_⟩
    subst hw
    refine ⟨⟨hinv.1.row, hinv.1.ids, hinv.1.fingerprints⟩, fun i l u hi => ?_⟩
    dsimp only at hi
    split at hi
    · exact hinv.2 i l u hi
    · simp at hi

/-- The rows of every reachable world. -/
theorem rowsOk_of_reachable {ok : (system A).State → (system A).Action → Prop}
    {s : (system A).State} (hs : Reachable A ok s) : RowsOk s.world := by
  obtain ⟨w, hw, h⟩ := hs
  obtain ⟨f, hinv, _⟩ := Discipline.holds_of_reach (basics_kept ok) h
    (Discipline.holds_start ⟨.of_initial hw, fun _ _ _ hi => by cases hi⟩)
  exact hinv.1

/-- The steps of a run start from worlds with such rows. -/
theorem Reachable.with_rowsOk {ok : (system A).State → (system A).Action → Prop}
    {s : (system A).State} (hs : Reachable A ok s) :
    Reachable A (fun t a => ok t a ∧ RowsOk t.world) s := by
  obtain ⟨w, hw, h⟩ := hs
  exact ⟨w, hw, h.with_invariant fun _ ht => rowsOk_of_reachable ⟨w, hw, ht⟩⟩

/-- With distinct ids a row is what its id finds. -/
theorem RowsOk.row_of_mem {w : World} (hw : RowsOk w) {g : MediaGeneration} (hg : g ∈ w.db.rows) :
    w.db.row g.id = some g := Table.find_of_mem hw.ids hg

end KlassGateway
