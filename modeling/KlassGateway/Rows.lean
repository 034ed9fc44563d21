import KlassGateway.System
/-!
# What a step does to the rows

Every change of a `media_generations` row goes through one of two calls: an
insertion, or a row statement.  The lemmas here say so for a query, for an
operation and for a step of the system, once for the row under a key
(`row_of_step`) and once for all rows (`forall_rows_exec`).
-/

namespace KlassGateway

open Lib Db Orchestrator Api

namespace Db.Query

/-- The row that a call inserts if nothing stands against it. -/
def inserted (db : Database) : Query → Option MediaGeneration
  | insertSubmission row => some row
  | insertRegeneration parentId row =>
    (db.row parentId).map fun parent => { row with teacherId := parent.teacherId }
  | _ => none

/-- An insertion inserts the row it is given, with the teacher of the parent
for a regeneration. -/
theorem inserted_cases {db : Database} {q : Query} {row : MediaGeneration}
    (h : q.inserted db = some row) : ∃ row' teacherId, row = { row' with teacherId } ∧
      (q = .insertSubmission row' ∨ ∃ parentId, q = .insertRegeneration parentId row') := by
  cases q with
  | insertSubmission row' =>
    cases h
    exact ⟨row, row.teacherId, rfl, .inl rfl⟩
  | insertRegeneration parentId row' =>
    obtain ⟨parent, _, rfl⟩ := Option.map_eq_some_iff.1 h
    exact ⟨row', parent.teacherId, rfl, .inr ⟨parentId, rfl⟩⟩
  | _ => cases h

variable (now : DateTime) (replies : MediaGen.PublicationReplies) {db : Database}

/-- A call leaves the rows alone, inserts one, or runs a statement on one. -/
theorem exec_rows (db : Database) (q : Query) :
    (q.exec now replies db).2.rows = db.rows ∨
    (∃ row, q.inserted db = some row ∧ db.insertFault row = none ∧
      (q.exec now replies db).2.rows =
        db.rows ++ [Database.stamp now row]) ∨
    (∃ id s g, q = .onRow id s ∧ db.row id = some g ∧
      (q.exec now replies db).2.rows =
        Table.modify MediaGeneration.id id
          (fun g => s.row now replies db.nextProjectId g) db.rows) := by
  have insert_rows (row : MediaGeneration) : (db.insert now row).2.rows = db.rows ∨
      db.insertFault row = none ∧ (db.insert now row).2.rows =
        db.rows ++ [Database.stamp now row] := by
    unfold Database.insert
    cases hf : db.insertFault row with
    | none => exact .inr ⟨rfl, rfl⟩
    | some e => exact .inl rfl
  cases q with
  | insertSubmission row =>
    obtain h | ⟨hf, h⟩ := insert_rows row
    · exact .inl h
    · exact .inr (.inl ⟨row, rfl, hf, h⟩)
  | insertRegeneration parentId row =>
    simp only [exec, inserted]
    cases hp : db.row parentId with
    | none => exact .inl rfl
    | some parent =>
      obtain h | ⟨hf, h⟩ := insert_rows { row with teacherId := parent.teacherId }
      · exact .inl h
      · exact .inr (.inl ⟨_, rfl, hf, h⟩)
  | onRow id s =>
    simp only [exec]
    cases hg : db.row id with
    | none => exact .inl rfl
    | some g =>
      exact .inr (.inr ⟨id, s, g, rfl, hg, Database.addEntities_rows _ _⟩)
  | _ => exact .inl rfl

/-- A row that exists stays, and changes only by a statement on it. -/
theorem exec_row (q : Query) {id : Uuid} {g : MediaGeneration} (hg : db.row id = some g) :
    (q.exec now replies db).2.row id = some g ∨
    ∃ s, q = .onRow id s ∧
      (q.exec now replies db).2.row id = some (s.row now replies db.nextProjectId g) := by
  unfold Database.row at hg ⊢
  obtain h | ⟨row, _, _, h⟩ | ⟨id', s, g', rfl, _, h⟩ :=
    exec_rows now replies db q
  · rw [h]
    exact .inl hg
  · rw [h, Table.find_append, hg]
    exact .inl rfl
  · rw [h]
    by_cases hid : id = id'
    · subst hid
      refine .inr ⟨s, rfl, ?_⟩
      rw [Table.find_modify_self (fun r hr => by rw [RowStatement.row_id, hr]), hg]
      rfl
    · rw [Table.find_modify_of_ne (fun r hr => by rw [RowStatement.row_id, hr]) hid]
      exact .inl hg

/-- A statement on a row that exists. -/
theorem row_of_onRow {id : Uuid} {st : RowStatement} {g : MediaGeneration}
    (hg : db.row id = some g) : ((onRow id st).exec now replies db).2.row id =
      some (st.row now replies db.nextProjectId g) := by
  simp only [exec, hg]
  unfold Database.row at hg ⊢
  rw [Database.addEntities_rows, Database.modifyRow,
    Table.find_modify_self (fun r hr => by rw [RowStatement.row_id, hr]), hg]
  rfl

/-- A property of all rows that insertions and statements keep. -/
theorem forall_rows_exec (q : Query) {I : MediaGeneration → Prop} (h : ∀ g ∈ db.rows, I g)
    (hinsert : ∀ row, q.inserted db = some row → db.insertFault row = none →
      I (Database.stamp now row))
    (hrow : ∀ id s g, q = .onRow id s → g ∈ db.rows → g.id = id →
      I (s.row now replies db.nextProjectId g)) :
    ∀ g ∈ (q.exec now replies db).2.rows, I g := by
  intro g hg
  obtain hr | ⟨row, hq, hf, hr⟩ | ⟨id, s, _, rfl, _, hr⟩ :=
    exec_rows now replies db q
  · exact h g (hr ▸ hg)
  · rw [hr, List.mem_append, List.mem_singleton] at hg
    obtain hg | rfl := hg
    · exact h g hg
    · exact hinsert row hq hf
  · rw [hr] at hg
    obtain ⟨hmem, _⟩ | ⟨g', hmem, hid, rfl⟩ := Table.mem_modify hg
    · exact h g hmem
    · exact hrow id s g' rfl hmem hid

/-- A key that statements keep and insertions do not repeat stays unique. -/
theorem nodup_exec {K : Type} (key : MediaGeneration → K) (q : Query)
    (h : (db.rows.map key).Nodup)
    (hinsert : ∀ row, q.inserted db = some row → db.insertFault row = none →
      ∀ g ∈ db.rows, key g ≠ key (Database.stamp now row))
    (hrow : ∀ (s : RowStatement) g, key (s.row now replies db.nextProjectId g) = key g) :
    ((q.exec now replies db).2.rows.map key).Nodup := by
  obtain hr | ⟨row, hq, hf, hr⟩ | ⟨id, s, _, _, _, hr⟩ := exec_rows now replies db q
  · rw [hr]
    exact h
  · rw [hr, List.map_append, List.nodup_append]
    refine ⟨h, List.nodup_singleton _, fun a ha b hb => ?_⟩
    obtain ⟨g, hg, rfl⟩ := List.mem_map.1 ha
    rw [List.map_singleton, List.mem_singleton] at hb
    rw [hb]
    exact hinsert row hq hf g hg
  · have hmap : (Table.modify MediaGeneration.id id
        (fun g => s.row now replies db.nextProjectId g) db.rows).map key = db.rows.map key := by
      rw [Table.modify, List.map_map]
      refine List.map_congr_left fun g _ => ?_
      simp only [Function.comp_apply]
      split
      · exact hrow s g
      · rfl
    rw [hr, hmap]
    exact h

/-- An insertion that succeeds finds its keys free. -/
theorem keys_free {row : MediaGeneration} (h : db.insertFault row = none) :
    ∀ g ∈ db.rows, g.id ≠ row.id ∧
      (row.activeDuplicateKey.isSome → g.activeDuplicateKey ≠ row.activeDuplicateKey) := by
  unfold Database.insertFault at h
  split at h
  · cases h
  · split at h
    · cases h
    · next hkey =>
      simpa [Database.keyTaken] using hkey

end Db.Query

/-! ## Operations -/

namespace Operation

variable {w : World} {c : Choice}

/-- A row that exists stays, and changes only by a statement on it. -/
theorem exec_row (c : Choice) (o : Operation) {id : Uuid} {g : MediaGeneration} (hg : w.db.row id = some g) :
    (o.exec w c).2.db.row id = some g ∨
    ∃ s, o = .query (.onRow id s) ∧ (o.exec w c).2.db.row id =
      some (s.row c.clock c.publication w.db.nextProjectId g) := by
  obtain h | ⟨q, rfl, h⟩ := exec_db w c o
  · rw [h]
    exact .inl hg
  · rw [h]
    obtain h' | ⟨s, rfl, h'⟩ := q.exec_row c.clock c.publication hg
    · exact .inl h'
    · exact .inr ⟨s, rfl, h'⟩

/-- A property of all rows that insertions and statements keep. -/
theorem forall_rows_exec (o : Operation) {I : MediaGeneration → Prop} (h : ∀ g ∈ w.db.rows, I g)
    (hinsert : ∀ q row, o = .query q → q.inserted w.db = some row →
      w.db.insertFault row = none → I (Database.stamp c.clock row))
    (hrow : ∀ id s g, o = .query (.onRow id s) → g ∈ w.db.rows → g.id = id →
      I (s.row c.clock c.publication w.db.nextProjectId g)) :
    ∀ g ∈ (o.exec w c).2.db.rows, I g := by
  obtain hdb | ⟨q, rfl, hdb⟩ := exec_db w c o
  · rw [hdb]
    exact h
  · rw [hdb]
    exact q.forall_rows_exec c.clock c.publication h (fun row => hinsert q row rfl)
      (fun id s g hq => hrow id s g (by rw [hq]))

/-- A row is read from the table. -/
theorem findById_answer {id : Uuid} {g : MediaGeneration}
    (h : (Operation.exec w (.query (.findById id)) c).1 = .ok (some g)) :
    w.db.row id = some g := by
  simp only [Operation.exec, withFault, Query.exec] at h
  cases hf : c.fault with
  | none =>
    rw [hf] at h
    exact Except.ok.inj h
  | failed m =>
    rw [hf] at h
    cases h
  | lost m =>
    rw [hf] at h
    cases h

/-- A statement that has answered was run. -/
theorem row_of_answer {id : Uuid} {st : RowStatement} {g : MediaGeneration}
    (hg : w.db.row id = some g) {r : (Query.onRow id st).Resp}
    (h : (Operation.exec w (.query (.onRow id st)) c).1 = .ok r) :
    (Operation.exec w (.query (.onRow id st)) c).2.db.row id =
      some (st.row c.clock c.publication w.db.nextProjectId g) := by
  simp only [Operation.exec, withFault] at h ⊢
  cases hf : c.fault with
  | none => exact Query.row_of_onRow _ _ hg
  | failed m =>
    rw [hf] at h
    cases h
  | lost m =>
    rw [hf] at h
    cases h

end Operation

/-! ## Steps of the system -/

variable {A : AppState}

/-- An arrival changes the job stream and the renderer's record only. -/
theorem arrive_world {w w' : World} {arr : Arrival} {spawned : List (Label × Gateway Unit)}
    (h : arrive A w arr = some (w', spawned)) :
    ∃ jobs renderer, w' = { w with redis := { w.redis with jobs }, renderer } := by
  cases arr with
  | readMessages consumer replyLost =>
    obtain ⟨⟨entries, jobs⟩, _, he⟩ := Option.map_eq_some_iff.1 h
    obtain ⟨rfl, _⟩ := Prod.mk.inj he
    exact ⟨_, _, rfl⟩
  | callback payload =>
    obtain ⟨renderer, _, he⟩ := Option.map_eq_some_iff.1 h
    obtain ⟨rfl, _⟩ := Prod.mk.inj he
    exact ⟨_, _, rfl⟩
  | duplicateCallback n =>
    obtain ⟨payload, _, he⟩ := Option.map_eq_some_iff.1 h
    obtain ⟨rfl, _⟩ := Prod.mk.inj he
    exact ⟨_, _, rfl⟩
  | _ =>
    cases h
    exact ⟨_, _, rfl⟩

/-- What one step does to a row that exists: nothing, or one task runs a
statement on it. -/
theorem row_of_step {s s' : (system A).State} {a : (system A).Action}
    (h : Pool.step s a = some s') {id : Uuid} {g : MediaGeneration}
    (hg : s.world.db.row id = some g) :
    s'.world.db.row id = some g ∨
    ∃ l st now replies projectId, Pool.called s a = some (l, .query (.onRow id st)) ∧
      s'.world.db.row id = some (st.row now replies projectId g) := by
  obtain ⟨arr, w, spawned, rfl, harr, rfl⟩ | ⟨i, c, l, o, k, rfl, hti, rfl⟩ | ⟨i, _, rfl, _, rfl⟩ :=
    Pool.step_cases h
  · obtain ⟨jobs, renderer, rfl⟩ := arrive_world harr
    exact .inl hg
  · obtain h' | ⟨st, rfl, h'⟩ := o.exec_row c hg
    · exact .inl h'
    · exact .inr ⟨l, st, _, _, _, Pool.called_act hti, h'⟩
  · exact .inl hg

/-- There is a row with the id, and it is so. -/
def RowHolds (id : Uuid) (I : MediaGeneration → Prop) (w : World) : Prop :=
  ∃ g, w.db.row id = some g ∧ I g

/-- A property of a row that every statement in its way keeps, over a whole
run. -/
theorem row_of_reach {ok : (system A).State → (system A).Action → Prop} {id : Uuid}
    {I : MediaGeneration → Prop}
    (hstep : ∀ s a l st g now replies projectId, ok s a →
      Pool.called s a = some (l, .query (.onRow id st)) → s.world.db.row id = some g → I g →
      I (st.row now replies projectId g))
    {s s' : (system A).State} (h : Pool.Reach ok s s')
    (hs : ∃ g, s.world.db.row id = some g ∧ I g) : ∃ g, s'.world.db.row id = some g ∧ I g := by
  have hstart : RowHolds id I s.world := hs
  refine h.invariant (fun t a t' hok (ht : RowHolds id I t.world) he => (?_ : RowHolds id I t'.world))
    hstart
  obtain ⟨g, hg, hi⟩ := ht
  obtain hsame | ⟨l, st, now, replies, projectId, hcall, hrow⟩ := row_of_step he hg
  · exact ⟨g, hsame, hi⟩
  · exact ⟨_, hrow, hstep t a l st g now replies projectId hok hcall hg hi⟩

end KlassGateway
