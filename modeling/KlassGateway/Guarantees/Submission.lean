import KlassGateway.Reachable
import KlassGateway.Sequential
/-!
# Submissions

`create_or_reuse` looks for a duplicate by the status of the row, and the
unique index looks at `active_duplicate_key`.  Nothing ever clears the key, so
the two do not stay in step: the key of a terminal row is still taken.

* `createOrReuse_meets_iff`: two open rows of one teacher never share a
  fingerprint, and a submission does what is expected of it exactly when every
  row that holds its key is an open row of the same teacher and, if there is
  none, the new row is one that the tables accept.
-/

namespace KlassGateway

open Lib Lib.Prog Db Orchestrator Queue Api

variable {A : AppState} {P : Platform}

/-! ## The newest row -/

theorem newest_mem {rows : List MediaGeneration} {g : MediaGeneration}
    (h : Database.newest rows = some g) : g ∈ rows := by
  induction rows generalizing g with
  | nil => cases h
  | cons a rows ih =>
    rw [Database.newest] at h
    split at h
    · cases h
      exact List.mem_cons_self
    · next b hb =>
      split at h
      · cases h
        exact List.mem_cons_self
      · cases h
        exact List.mem_cons_of_mem _ (ih hb)

theorem newest_eq_none {rows : List MediaGeneration} :
    Database.newest rows = none ↔ rows = [] := by
  cases rows with
  | nil => simp [Database.newest]
  | cons a rows =>
    rw [Database.newest]
    split
    · simp
    · split <;> simp

/-! ## What is expected of a submission -/

/-- The active duplicates of a submission. -/
def activeDuplicates (P : Platform) (input : CreateInput) (db : Database) : List MediaGeneration :=
  db.rows.filter (Database.isActiveDuplicate input.teacherId (input.fingerprint P))

/-- What is expected of a submission: it returns a duplicate if there is one,
and otherwise exactly one new `queued` row. -/
structure SubmissionMeets (P : Platform) (input : CreateInput) (w : World)
    (out : Outcome machine (Except SubmissionError CreateResult)) : Prop where
  reuse : activeDuplicates P input w.db ≠ [] → ∃ g ∈ activeDuplicates P input w.db,
    out.result = some (.ok ⟨g.id, false, input.fingerprint P⟩) ∧ out.world.db = w.db
  insert : activeDuplicates P input w.db = [] → ∃ g,
    out.result = some (.ok ⟨g.id, true, input.fingerprint P⟩) ∧ g.status = .queued ∧
      g.teacherId = input.teacherId ∧ g.requestFingerprint = input.fingerprint P ∧
      out.world.db.rows = w.db.rows ++ [g]

/-- The tables accept a new row for the submission: its texts fit their columns
and its references exist. -/
def Acceptable (P : Platform) (input : CreateInput) (db : Database) : Prop :=
  ∀ id, Database.columnFault (input.toRow P id) = none ∧ db.referencesExist (input.toRow P id)

/-- Every row that holds the key of the submission is an active duplicate, and
if there is none the tables accept a new row. -/
structure KeyClear (P : Platform) (input : CreateInput) (db : Database) : Prop where
  holders : ∀ g ∈ db.rows, g.activeDuplicateKey = some (input.fingerprint P) →
    g ∈ activeDuplicates P input db
  acceptable : activeDuplicates P input db = [] → Acceptable P input db

/-! ## A run of `create_or_reuse` -/

theorem total_createOrReuse (input : CreateInput) : (createOrReuse P input).run.Total := by
  have hquery (q : Query) : (query q).run.Total := fun _ => trivial
  have hlookup : (lookupDuplicate P input).run.Total := total_run_mapErr (hquery _)
  apply total_run_bind hlookup
  intro found
  cases found with
  | some id => trivial
  | none =>
    apply total_run_bind (show (liftM newV4 : GatewayResult _ _).run.Total from fun _ => trivial)
    intro id
    apply total_run_bind (total_run_resultOf (hquery _))
    intro r
    cases r with
    | ok _ => trivial
    | error e =>
      show (recoverInsert P input e).run.Total
      unfold recoverInsert
      split
      · apply total_run_bind hlookup
        intro found
        cases found <;> trivial
      · trivial

/-- The specification of a run with database calls that succeed. -/
abbrev dbRun : OpSpec effects World := alone FreeCall DbSucceeds

variable {input : CreateInput} {w : World}

/-- The lookup answers with the newest active duplicate. -/
theorem wp_lookupDuplicate : (lookupDuplicate P input).run.wp dbRun
    (fun r w' => r = .ok ((Database.newest (activeDuplicates P input w.db)).map MediaGeneration.id) ∧
      w' = w) w :=
  (wp_run_mapErr _ _ _ _).2 (wp_query_alone trivial (fun _ _ => ⟨rfl, rfl⟩) fun _ => not_fault)

/-- An active duplicate is returned. -/
theorem wp_createOrReuse_found {g : MediaGeneration}
    (hg : Database.newest (activeDuplicates P input w.db) = some g) :
    (createOrReuse P input).run.wp dbRun
      (fun r w' => r = .ok ⟨g.id, false, input.fingerprint P⟩ ∧ w' = w) w := by
  apply wp_run_seq wp_lookupDuplicate
  · rintro found w' ⟨hfound, rfl⟩
    rw [hg] at hfound
    cases hfound
    exact ⟨rfl, rfl⟩
  · rintro e w' ⟨he, _⟩
    cases he

/-- What follows a failed insertion without an active duplicate is an error. -/
theorem wp_recoverInsert (hnone : activeDuplicates P input w.db = []) (e : SqlxError) :
    (recoverInsert P input e).run.wp dbRun (fun r _ => ∃ e', r = .error e') w := by
  unfold recoverInsert
  split
  · apply wp_run_seq wp_lookupDuplicate
    · rintro found w' ⟨hfound, rfl⟩
      rw [hnone] at hfound
      cases hfound
      exact ⟨_, rfl⟩
    · rintro e w' ⟨he, _⟩
      cases he
  · exact ⟨_, rfl⟩

/-- Without an active duplicate the outcome is that of the insertion. -/
theorem wp_createOrReuse_new (hnone : activeDuplicates P input w.db = []) :
    (createOrReuse P input).run.wp dbRun
      (fun r w' =>
        (w.db.insertFault (input.toRow P ⟨w.nextUuid⟩) = none ∧
          r = .ok ⟨⟨w.nextUuid⟩, true, input.fingerprint P⟩ ∧
          w'.redis = w.redis ∧ w'.renderer = w.renderer ∧ ∃ now, w'.db.rows =
            w.db.rows ++ [Database.stamp now (input.toRow P ⟨w.nextUuid⟩)]) ∨
        (w.db.insertFault (input.toRow P ⟨w.nextUuid⟩) ≠ none ∧ ∃ e, r = .error e)) w := by
  apply wp_run_seq wp_lookupDuplicate
  · rintro found w' ⟨hfound, rfl⟩
    rw [hnone] at hfound
    cases hfound
    refine (wp_run_bind _ _ _ _).2 ((wp_run_liftM _ _ _).2 ((wp_perform_alone _ _ _).2
      ⟨trivial, fun c _ => ?_⟩))
    refine (wp_run_bind _ _ _ _).2 ((wp_run_resultOf _ _ _).2
      (wp_insertSubmission_alone trivial (fun hf now w'' hrows hredis hrenderer => ?_) (fun e hf => ?_)
        fun _ => not_fault))
    · exact .inl ⟨hf, rfl, hredis, hrenderer, now, hrows⟩
    · have hsome : w'.db.insertFault (input.toRow P ⟨w'.nextUuid⟩) = some e := hf
      refine wp_mono (fun r w'' he => .inr ⟨?_, he⟩)
        (wp_recoverInsert (w := (Operation.exec w' .newUuid c).2) hnone e)
      rw [hsome]
      exact nofun
  · rintro e w' ⟨he, _⟩
    cases he

/-! ## When a submission does what is expected -/

/-- The key of a row is its fingerprint, so the holders of a key are the rows
with the fingerprint, and there is at most one. -/
theorem eq_of_fingerprint {w : World} (hw : RowsOk w) {a b : MediaGeneration}
    (ha : a ∈ w.db.rows) (hb : b ∈ w.db.rows)
    (he : a.requestFingerprint = b.requestFingerprint) : a = b :=
  List.inj_on_of_nodup_map hw.fingerprints ha hb he

/-- An active duplicate is the only holder of its key. -/
theorem keyClear_of_mem {w : World} (hw : RowsOk w) {input : CreateInput} {g : MediaGeneration}
    (hg : g ∈ activeDuplicates P input w.db) : KeyClear P input w.db := by
  have hne : activeDuplicates P input w.db ≠ [] := List.ne_nil_of_mem hg
  refine ⟨fun g' hg' hkey => ?_, fun hnone => absurd hnone hne⟩
  obtain ⟨hmem, hdup⟩ := List.mem_filter.1 hg
  have hfp : g.requestFingerprint = input.fingerprint P := by
    simp only [Database.isActiveDuplicate, Bool.and_eq_true, beq_iff_eq] at hdup
    exact hdup.1.2
  have hfp' : g'.requestFingerprint = input.fingerprint P := by
    rw [(hw.row g' hg').key] at hkey
    exact Option.some.inj hkey
  rw [eq_of_fingerprint hw hg' hmem (hfp'.trans hfp.symm)]
  exact hg

/-- Without an active duplicate the insertion goes through exactly when nobody
holds the key and the tables accept the row. -/
theorem insertFault_eq_none_iff {w : World} (hw : RowsOk w) {input : CreateInput}
    (hnone : activeDuplicates P input w.db = []) :
    w.db.insertFault (input.toRow P ⟨w.nextUuid⟩) = none ↔ KeyClear P input w.db := by
  constructor
  · intro hf
    refine ⟨fun g hg hkey => ?_, fun _ id => ?_⟩
    · exact absurd hkey ((Query.keys_free hf g hg).2 rfl)
    · obtain ⟨hcolumn, hrefs⟩ := Database.accepted_of_insertFault hf
      exact ⟨hcolumn, hrefs⟩
  · intro hclear
    obtain ⟨hcolumn, hrefs⟩ := hclear.acceptable hnone ⟨w.nextUuid⟩
    refine Database.insertFault_eq_none hcolumn (fun g hg => ⟨fun hid => ?_, fun _ hkey => ?_⟩) hrefs
    · have hlt : g.id.value < w.nextUuid := (hw.row g hg).id
      rw [hid] at hlt
      exact Nat.lt_irrefl _ hlt
    · have hmem : g ∈ activeDuplicates P input w.db := hclear.holders g hg hkey
      rw [hnone] at hmem
      cases hmem

/-- In every reachable state two open rows of a teacher have different
fingerprints, and a submission does what is expected of it exactly when its key
is clear. -/
theorem createOrReuse_meets_iff {ok : (system A).State → (system A).Action → Prop}
    {s : (system A).State} (hs : Reachable A ok s) (input : CreateInput) {env : Nat → Choice}
    {out : Outcome machine (Except SubmissionError CreateResult)}
    (hout : out = (createOrReuse A.platform input).run.run machine env s.world)
    (hdb : ∀ c ∈ out.calls, DbSucceeds c.before c.op c.choice) :
    (∀ a ∈ s.world.db.rows, ∀ b ∈ s.world.db.rows,
      a.status.isTerminal = false → b.status.isTerminal = false →
      a.teacherId = b.teacherId → a.requestFingerprint = b.requestFingerprint → a = b) ∧
    (SubmissionMeets A.platform input s.world out ↔ KeyClear A.platform input s.world.db) := by
  have hw : RowsOk s.world := rowsOk_of_reachable hs
  refine ⟨fun a ha b hb _ _ _ he => eq_of_fingerprint hw ha hb he, ?_⟩
  subst hout
  obtain ⟨res, hres⟩ := exists_result (total_createOrReuse (P := A.platform) input) env s.world
  cases hnew : Database.newest (activeDuplicates A.platform input s.world.db) with
  | some g =>
    have hg : g ∈ activeDuplicates A.platform input s.world.db := newest_mem hnew
    obtain ⟨hr, hworld⟩ := Machine.result_of_wp (wp_createOrReuse_found hnew) hdb hres
    refine iff_of_true ⟨fun _ => ⟨g, hg, ?_, ?_⟩, fun hnone => ?_⟩ (keyClear_of_mem hw hg)
    · rw [hres, hr]
    · rw [hworld]
    · rw [hnone] at hg
      cases hg
  | none =>
    have hnone : activeDuplicates A.platform input s.world.db = [] := newest_eq_none.1 hnew
    rw [← insertFault_eq_none_iff hw hnone]
    obtain ⟨hf, hr, -, -, now, hrows⟩ | ⟨hf, e, hr⟩ :=
      Machine.result_of_wp (wp_createOrReuse_new hnone) hdb hres
    · refine iff_of_true ⟨fun hne => absurd hnone hne, fun _ => ⟨_, ?_, ?_, ?_, ?_, hrows⟩⟩ hf
      · rw [hres, hr]
        rfl
      all_goals rfl
    · refine iff_of_false (fun hmeets => ?_) hf
      obtain ⟨g, hok, _⟩ := hmeets.insert hnone
      rw [hres, hr] at hok
      cases hok

/-! ## The key of a failed generation -/

/-- The submission of the sample request. -/
def sampleSubmission (w : World) : Outcome machine (Except SubmissionError CreateResult) :=
  (createOrReuse asciiPlatform ⟨7, "fotosintesis", none, none, none, {}⟩).run.run machine
    (fun _ => fine) w

/-- A request that has failed for good cannot be submitted again. -/
theorem failed_holds_key :
    ∃ s : (system sampleGateway).State, Reachable sampleGateway (fun _ _ => True) s ∧
      ¬ SubmissionMeets asciiPlatform ⟨7, "fotosintesis", none, none, none, {}⟩ s.world
        (sampleSubmission s.world) := by
  have hplay : ((Pool.play (fun _ _ => True) ((system sampleGateway).start sampleWorld)
      requestFailed).map fun s =>
        ((activeDuplicates asciiPlatform ⟨7, "fotosintesis", none, none, none, {}⟩
          s.world.db).isEmpty, (sampleSubmission s.world).result.any Except.isOk)) =
      some (true, false) := by
    decide +kernel
  obtain ⟨s, hs, he⟩ := Pool.exists_of_play hplay
  obtain ⟨hnone, herr⟩ := Prod.mk.inj he
  refine ⟨s, ⟨_, initial_sampleWorld, hs⟩, fun hmeets => ?_⟩
  obtain ⟨g, hok, _⟩ := hmeets.insert (List.isEmpty_iff.1 hnone)
  rw [hok] at herr
  cases herr

/-- While it is open, the same submission returns it. -/
theorem createOrReuse_meets_iff_open :
    ∃ s : (system sampleGateway).State,
      SubmissionMeets asciiPlatform ⟨7, "fotosintesis", none, none, none, {}⟩ s.world
        (sampleSubmission s.world) := by
  have hplay : ((Pool.play (fun _ _ => True) ((system sampleGateway).start sampleWorld)
      requestRead).map fun s => (activeDuplicates asciiPlatform
        ⟨7, "fotosintesis", none, none, none, {}⟩ s.world.db).isEmpty) = some false := by
    decide +kernel
  obtain ⟨s, hs, he⟩ := Pool.exists_of_play hplay
  obtain ⟨g, hg⟩ := List.isEmpty_eq_false_iff_exists_mem.1 he
  have hreach : Reachable sampleGateway (fun _ _ => True) s := ⟨_, initial_sampleWorld, hs⟩
  exact ⟨s, (createOrReuse_meets_iff hreach _ rfl (dbSucceeds_of_fault _ (fun _ => rfl) _)).2.2
    (keyClear_of_mem (rowsOk_of_reachable hreach) hg)⟩

end KlassGateway
