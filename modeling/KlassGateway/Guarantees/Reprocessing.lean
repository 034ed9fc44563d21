import KlassGateway.Guarantees.Workflow
/-!
# What a reset leaves

`reset_for_reprocessing` gives a row a new prompt and starts it over.  It does
not touch the columns that the webhook and the publisher fill, nor the
fingerprint and the duplicate key that the submission derived from the old
prompt.

* `reset_startsOver_iff`: a reset row looks like a new one exactly when it had
  no artifact before.
* `keysCurrent_of_reachable`: the fingerprints stay current as long as every
  reset keeps the prompt up to case and white space.
-/

namespace KlassGateway

open Lib Lib.Prog Db Orchestrator Queue Api

/-! ## Artifacts -/

/-- The row refers to no artifact. -/
structure NoArtifacts (g : MediaGeneration) : Prop where
  s3ObjectKey : g.s3ObjectKey = none
  presignedDownloadUrl : g.presignedDownloadUrl = none
  fileUrl : g.fileUrl = none
  storagePath : g.storagePath = none
  topicId : g.topicId = none
  contentId : g.contentId = none
  recommendedProjectId : g.recommendedProjectId = none

/-- What is expected of a row after a reset: no checkpoint of the workflow
holds, and no artifact is left. -/
structure StartsOver (g : MediaGeneration) : Prop where
  classification : hasClassification g = false
  publication : hasPublicationEntities g = false
  delivery : hasFinalDeliveryPayload g = false
  artifacts : NoArtifacts g

/-- A reset row is as expected exactly when it had no artifact before. -/
theorem reset_startsOver_iff (g : MediaGeneration) (newRawPrompt : String) (now : DateTime) :
    StartsOver ((RowUpdate.resetForReprocessing newRawPrompt).apply now g) ↔ NoArtifacts g := by
  constructor
  · intro h
    obtain ⟨hkey, hurl, hfile, hpath, htopic, hcontent, hproject⟩ := h.artifacts
    exact ⟨hkey, hurl, hfile, hpath, htopic, hcontent, hproject⟩
  · intro h
    obtain ⟨hkey, hurl, hfile, hpath, htopic, hcontent, hproject⟩ := h
    refine ⟨rfl, ?_, rfl, ⟨hkey, hurl, hfile, hpath, htopic, hcontent, hproject⟩⟩
    show (g.topicId.isSome && g.contentId.isSome && g.recommendedProjectId.isSome) = false
    rw [htopic]
    rfl

/-- A teacher skips the clarification of a generation whose artifact is stored;
the next call of the request is the reset. -/
def resetOfStored : List ((system sampleGateway).Action) :=
  artifactStored ++ [.arrive (.skipClarification sampleTeacher ⟨0⟩)] ++ calls 4 1

/-- The reset leaves the object key of the old artifact. -/
theorem artifact_kept :
    ∃ (s s' : (system sampleGateway).State) (g : MediaGeneration),
      Reachable sampleGateway (fun _ _ => True) s ∧
      (Pool.called s (.act 4 fine)).any (fun lo =>
        lo.2 matches .query (.onRow ⟨0⟩ (.update (.resetForReprocessing _)))) ∧
      Pool.step s (.act 4 fine) = some s' ∧ s'.world.db.row ⟨0⟩ = some g ∧
      g.s3ObjectKey = some "jobs/1.pptx" ∧ ¬ StartsOver g := by
  have hplay : ((Pool.play (fun _ _ => True) ((system sampleGateway).start sampleWorld)
      resetOfStored).map fun s =>
        ((Pool.called s (.act 4 fine)).any (fun lo =>
            lo.2 matches .query (.onRow ⟨0⟩ (.update (.resetForReprocessing _)))),
          (Pool.step s (.act 4 fine)).map fun s' =>
            (s'.world.db.row ⟨0⟩).map MediaGeneration.s3ObjectKey)) =
      some (true, some (some (some "jobs/1.pptx"))) := by
    decide +kernel
  obtain ⟨s, hs, he⟩ := Pool.exists_of_play hplay
  obtain ⟨hcall, he⟩ := Prod.mk.inj he
  obtain ⟨s', hstep, he⟩ := Option.map_eq_some_iff.1 he
  obtain ⟨g, hg, hkey⟩ := Option.map_eq_some_iff.1 he
  refine ⟨s, s', g, ⟨_, initial_sampleWorld, hs⟩, hcall, hstep, hg, hkey, fun h => ?_⟩
  rw [h.artifacts.s3ObjectKey] at hkey
  cases hkey

/-! ## Fingerprints -/

variable {A : AppState} {P : Platform}

/-- The fingerprint that the columns of a row have now. -/
def currentFingerprint (P : Platform) (g : MediaGeneration) : String :=
  makeRequestFingerprint P g.teacherId g.rawPrompt g.preferredOutputType g.subjectId g.subSubjectId

/-- The fingerprint of a row is that of its columns, and so is its duplicate
key, if it has one. -/
structure KeysCurrent (P : Platform) (g : MediaGeneration) : Prop where
  fingerprint : g.requestFingerprint = currentFingerprint P g
  key : g.activeDuplicateKey = none ∨ g.activeDuplicateKey = some (currentFingerprint P g)

theorem keysCurrent_toRow (input : CreateInput) (id : Uuid) :
    KeysCurrent P (input.toRow P id) := ⟨rfl, .inr rfl⟩

theorem keysCurrent_regenerationRow (parent : MediaGeneration) (prompt : String) (id : Uuid) :
    KeysCurrent P (regenerationRow P parent prompt id) := ⟨rfl, .inr rfl⟩

/-- A reset that keeps the prompt of its row up to case and white space. -/
def resetKeepsPrompt (P : Platform) (w : World) : Operation → Bool
  | .query (.onRow id (.update (.resetForReprocessing prompt))) =>
    (w.db.row id).all fun g => squishAndLower P prompt == squishAndLower P g.rawPrompt
  | _ => true

/-- The step is no reset with another prompt. -/
def ResetsKeepPrompt (s : (system A).State) (a : (system A).Action) : Prop :=
  (Pool.called s a).all fun lo => resetKeepsPrompt A.platform s.world lo.2

instance (s : (system A).State) (a : (system A).Action) : Decidable (ResetsKeepPrompt s a) :=
  inferInstanceAs (Decidable (_ = true))

/-- The columns of the request change by a reset only, and a reset changes the
prompt only. -/
theorem row_request (g : MediaGeneration) (s : RowStatement) (now : DateTime)
    (replies : MediaGen.PublicationReplies) (projectId : Int) :
    currentFingerprint P (s.row now replies projectId g) = currentFingerprint P g ∨
    ∃ prompt, s = .update (.resetForReprocessing prompt) ∧
      currentFingerprint P (s.row now replies projectId g) =
        currentFingerprint P { g with rawPrompt := prompt } := by
  obtain h | ⟨u, rfl, h⟩ | ⟨_, _, _, h⟩ | ⟨_, _, _, _, _, _, _, h⟩ |
    ⟨_, _, _, _, _, _, _, _, _, _, h⟩ | ⟨_, _, _, _, _, _, _, _, h⟩ :=
      s.row_cases now replies projectId g
  case inr.inl =>
    cases u with
    | resetForReprocessing prompt => exact .inr ⟨prompt, rfl, rfl⟩
    | _ => exact .inl rfl
  all_goals exact .inl (by simp only [h, currentFingerprint])

/-- A statement keeps the keys current, a reset if it keeps the prompt. -/
theorem KeysCurrent.statement {w : World} {g : MediaGeneration} (hg : KeysCurrent P g)
    (hrow : w.db.row g.id = some g) {st : RowStatement}
    (hok : resetKeepsPrompt P w (.query (.onRow g.id st))) (now : DateTime)
    (replies : MediaGen.PublicationReplies) (projectId : Int) :
    KeysCurrent P (st.row now replies projectId g) := by
  obtain ⟨_, _, hfp, hkey⟩ := row_identity now replies projectId g st
  have hsame : currentFingerprint P (st.row now replies projectId g) = currentFingerprint P g := by
    obtain h | ⟨prompt, rfl, h⟩ := row_request (P := P) g st now replies projectId
    · exact h
    · rw [h]
      simp only [resetKeepsPrompt, hrow, Option.all_some, beq_iff_eq] at hok
      simp only [currentFingerprint, makeRequestFingerprint, hok]
  refine ⟨by rw [hfp, hsame]; exact hg.fingerprint, ?_⟩
  rw [hkey, hsame]
  exact hg.key

/-! ## The discipline -/

/-- Rows are inserted with current keys, and a regeneration after its parent
was read. -/
def requestsSpec (P : Platform) : OpSpec effects (Option MediaGeneration) where
  pre read o := match o with
    | .query (.insertSubmission row) => KeysCurrent P row
    | .query (.insertRegeneration parentId row) => KeysCurrent P row ∧
      ∃ parent, read = some parent ∧ parent.id = parentId ∧ row.teacherId = parent.teacherId
    | _ => True
  step read o r read' := match o, r with
    | .query (.findById id), .ok (some g) => g.id = id ∧ read' = some g
    | _, _ => read' = read

/-- A row that was read is there, with the same teacher. -/
def StillThere (w : World) (g : MediaGeneration) : Prop :=
  ∃ g', w.db.row g.id = some g' ∧ g'.teacherId = g.teacherId

/-- The discipline of every task. -/
def requests (A : AppState) : Discipline (system A) (Option MediaGeneration) where
  spec := requestsSpec A.platform
  inv w v := (∀ g ∈ w.db.rows, KeysCurrent A.platform g) ∧
    ∀ i l g, v i = some (l, some g) → StillThere w g

theorem StillThere.exec {w : World} {g : MediaGeneration} (h : StillThere w g) (o : Operation)
    (c : Choice) : StillThere (o.exec w c).2 g := by
  obtain ⟨g', hg', hteacher⟩ := h
  obtain hsame | ⟨st, _, hrow⟩ := o.exec_row c hg'
  · exact ⟨g', hsame, hteacher⟩
  · exact ⟨_, hrow, (row_identity _ _ _ g' st).2.1.trans hteacher⟩

theorem requests_admits (P : Platform) : Admits P (requestsSpec P) where
  handler read o h := by
    cases o with
    | query q =>
      cases q with
      | insertSubmission row => cases h
      | insertRegeneration parentId row => cases h
      | _ => trivial
    | _ => trivial
  submission _ id _ input _ := keysCurrent_toRow input id
  regeneration read parentId parent read' id read'' prompt hread hdraw := by
    obtain ⟨hid, rfl⟩ := hread
    exact ⟨keysCurrent_regenerationRow parent prompt id, parent, hdraw, hid, rfl⟩

/-- A worker inserts nothing. -/
theorem requestsSpec_of_worker {g : Uuid} {o : Operation} (h : RunCall g o ∨ TailCall g o)
    (read : Option MediaGeneration) : (requestsSpec P).pre read o := by
  cases o with
  | query q =>
    cases q with
    | insertSubmission row =>
      obtain h | h | h := h
      · exact absurd h RunCall.not_insertSubmission
      · cases h
      · cases h
    | insertRegeneration parentId row =>
      obtain h | h | h := h
      · exact absurd h RunCall.not_insertRegeneration
      · cases h
      · cases h
    | _ => trivial
  | _ => trivial

theorem requests_spawned {l : Label} {p : Gateway Unit} (h : Spawned A l p) :
    Safe (requestsSpec A.platform) p := by
  obtain hreq | ⟨e, rfl, rfl⟩ := h.request_or_entry (requests_admits A.platform)
  · exact hreq
  · exact (only_workerTask _ _ _).safe fun _ ho read => requestsSpec_of_worker ho read

/-- What a task has read after a call. -/
def readAfter (read : Option MediaGeneration) (o : Operation) (r : o.Resp) :
    Option MediaGeneration :=
  match o, r with
  | .query (.findById _), .ok (some g) => some g
  | _, _ => read

/-- What is known about the answer of a call. -/
theorem readAfter_step {w : World} (read : Option MediaGeneration) (o : Operation) (c : Choice) :
    (requestsSpec P).step read o (o.exec w c).1 (readAfter read o (o.exec w c).1) := by
  cases o with
  | query q =>
    cases q with
    | findById id =>
      match h : (Operation.exec w (.query (.findById id)) c).1 with
      | .ok (some g) => exact ⟨Table.find_key (Operation.findById_answer h), rfl⟩
      | .ok none => rfl
      | .error _ => rfl
    | _ => rfl
  | _ => rfl

theorem stillThere_readAfter {w : World} {read : Option MediaGeneration} {o : Operation} {c : Choice}
    {g : MediaGeneration} (hread : ∀ g, read = some g → StillThere w g)
    (h : readAfter read o (o.exec w c).1 = some g) : StillThere w g := by
  cases o with
  | query q =>
    cases q with
    | findById id =>
      match hr : (Operation.exec w (.query (.findById id)) c).1 with
      | .ok (some g') =>
        rw [hr] at h
        cases h
        have hrow := Operation.findById_answer hr
        exact ⟨g, by rw [Table.find_key hrow]; exact hrow, rfl⟩
      | .ok none =>
        rw [hr] at h
        exact hread g h
      | .error _ =>
        rw [hr] at h
        exact hread g h
    | _ => exact hread g h
  | _ => exact hread g h

/-- The inserted rows have current keys. -/
theorem keysCurrent_inserted {w : World} {read : Option MediaGeneration} {q : Query}
    {row : MediaGeneration} (hread : ∀ g, read = some g → StillThere w g)
    (hpre : (requestsSpec P).pre read (.query q)) (hq : q.inserted w.db = some row) :
    KeysCurrent P row := by
  cases q with
  | insertSubmission row' =>
    cases hq
    exact hpre
  | insertRegeneration parentId row' =>
    obtain ⟨hkeys, parent, hparent, hid, hteacher⟩ := hpre
    obtain ⟨g, hg, rfl⟩ := Option.map_eq_some_iff.1 hq
    obtain ⟨g', hg', hsame⟩ := hread parent hparent
    rw [hid, hg] at hg'
    cases hg'
    have hrow : { row' with teacherId := g.teacherId } = row' := by rw [hsame, ← hteacher]
    rw [hrow]
    exact hkeys
  | _ => cases hq

/-- Every step keeps the discipline. -/
theorem requests_kept : (requests A).Kept fun s a => ResetsKeepPrompt s a ∧ RowsOk s.world where
  mono w v v' hv hinv := by
    refine ⟨hinv.1, fun i l g hi => ?_⟩
    obtain h | h := hv i
    · rw [h] at hi
      cases hi
    · exact hinv.2 i l g (h ▸ hi)
  act s f i c l o k hok hti hinv hpre := by
    have hread (g : MediaGeneration) (hg : f i = some g) : StillThere s.world g :=
      hinv.2 i l g (by simp [Discipline.view, hti, hg])
    refine ⟨readAfter (f i) o (o.exec s.world c).1, ?_, ?_, fun j lj g hj => ?_⟩
    · exact readAfter_step (f i) o c
    · refine o.forall_rows_exec hinv.1 (fun q row ho hq _ => ?_) fun id st g ho hmem hid => ?_
      · subst ho
        obtain ⟨hfp, hkey⟩ := keysCurrent_inserted hread hpre hq
        exact ⟨hfp, hkey⟩
      · subst ho hid
        have hreset : ResetsKeepPrompt s (.act i c) := hok.1
        simp only [ResetsKeepPrompt, Pool.called_act hti, Option.all_some] at hreset
        exact (hinv.1 g hmem).statement (hok.2.row_of_mem hmem) hreset _ _ _
    · by_cases hji : j = i
      · subst hji
        rw [Function.update_self] at hj
        obtain ⟨_, hg⟩ := Prod.mk.inj (Option.some.inj hj)
        exact (stillThere_readAfter hread hg).exec o c
      · rw [Function.update_of_ne hji] at hj
        exact (hinv.2 j lj g hj).exec o c
  arrive s f arr w spawned _ harr hinv := by
    obtain ⟨jobs, renderer, hw⟩ := arrive_world harr
    refine ⟨fun _ => none, fun j l p hj =>
      requests_spawned (spawned_of_arrive harr (List.mem_of_getElem? hj)) none, ?_⟩
    subst hw
    refine ⟨hinv.1, fun i l g hi => ?_⟩
    dsimp only at hi
    split at hi
    · exact hinv.2 i l g hi
    · simp at hi

/-- In every state reached by resets that keep the prompt, the keys of all rows
are current. -/
theorem keysCurrent_of_reachable {s : (system A).State} (hs : Reachable A ResetsKeepPrompt s) :
    ∀ g ∈ s.world.db.rows, KeysCurrent A.platform g := by
  obtain ⟨w, hw, h⟩ := hs.with_rowsOk
  have hstart : (requests A).inv w fun _ => none := by
    refine ⟨fun g hg => ?_, fun _ _ _ hi => by cases hi⟩
    rw [hw.rows] at hg
    cases hg
  obtain ⟨f, hinv, _⟩ := Discipline.holds_of_reach requests_kept h (Discipline.holds_start hstart)
  exact hinv.1

/-! ## Another prompt -/

/-- The sample gateway with the digests of two requests. -/
def twoDigests : AppState :=
  { sampleGateway with
    platform := { asciiPlatform with
      sha256Hex := fun s =>
        if s = "7|auto|none|none|fotosintesis untuk kelas 5" then
          "361aead5c8a0ab22840ea130039e564277d29c288f7b240dc01a53bb4ac31100"
        else asciiPlatform.sha256Hex s } }

/-- A request is created, and its teacher confirms it with a prompt. -/
def confirmedWith (enrichedPrompt : String) : List ((system twoDigests).Action) :=
  [.arrive (.create sampleTeacher { rawPrompt := "fotosintesis" })] ++
    List.replicate 9 (.act 0 fine) ++
    [.arrive (.confirm sampleTeacher { generationId := ⟨0⟩, enrichedPrompt })] ++
    List.replicate 2 (.act 1 fine)

/-- The fingerprint of a confirmed generation is that of the old prompt. -/
theorem fingerprint_outdated :
    ∃ (s : (system twoDigests).State) (g : MediaGeneration),
      Reachable twoDigests (fun _ _ => True) s ∧ g ∈ s.world.db.rows ∧
      ¬ KeysCurrent twoDigests.platform g := by
  have hplay : ((Pool.play (fun _ _ => True) ((system twoDigests).start sampleWorld)
      (confirmedWith "fotosintesis untuk kelas 5")).map fun s => (s.world.db.row ⟨0⟩).map fun g =>
        g.requestFingerprint == currentFingerprint twoDigests.platform g) =
      some (some false) := by
    decide +kernel
  obtain ⟨s, hs, he⟩ := Pool.exists_of_play hplay
  obtain ⟨g, hg, hne⟩ := Option.map_eq_some_iff.1 he
  refine ⟨s, g, ⟨_, initial_sampleWorld, hs⟩, Table.find_mem hg, fun h => ?_⟩
  rw [h.fingerprint, beq_self_eq_true] at hne
  cases hne

/-- A confirmation of the same words keeps the keys current. -/
theorem keysCurrent_of_reachable_confirmed :
    ∃ s : (system twoDigests).State, s.world.db.rows.length = 1 ∧
      ∀ g ∈ s.world.db.rows, KeysCurrent twoDigests.platform g := by
  have hplay : ((Pool.play ResetsKeepPrompt ((system twoDigests).start sampleWorld)
      (confirmedWith " Fotosintesis ")).map fun s => s.world.db.rows.length) = some 1 := by
    decide +kernel
  obtain ⟨s, hs, hlen⟩ := Pool.exists_of_play hplay
  exact ⟨s, hlen, keysCurrent_of_reachable ⟨_, initial_sampleWorld, hs⟩⟩

end KlassGateway
