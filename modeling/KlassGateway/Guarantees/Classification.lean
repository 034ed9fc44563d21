import KlassGateway.Sequential
/-!
# The classification checkpoint

`has_classification` reads the source of the content draft back from the
decision payload.  `DraftStepAdapter::draft` stores it there, but it returns the
draft without its envelope, and `ensure_classified` resolves the decision once
more with what it was given.  A bare draft has no `source`, so the stored one is
replaced by `interpretation_only`.

* `hasClassification_of_draft`: a run of `ensure_classified` that obtains a
  draft and succeeds leaves a row without classification, whatever the source
  of the draft.
-/

namespace KlassGateway

open Lib Lib.Prog Db Orchestrator Queue Llm

/-- The specification of a run with any answers and any faults. -/
abbrev anyRun : OpSpec effects World := alone FreeCall fun _ _ _ => True

variable {g : Uuid} {w : World} {P : Platform} {url : String} {attempt : Int}
  {jobContext : Option Json}

/-- The row has the draft source of an interpretation without a draft. -/
def LacksDraft (g : Uuid) (w : World) : Prop :=
  ∃ r, w.db.row g = some r ∧ draftSource r = some "interpretation_only"

/-- A resolution with a bare draft overwrites the draft source. -/
theorem draftSource_decisionPayload (d : DecisionOutput) {draft : Json}
    (hdraft : draft.get "source" = none) (r : MediaGeneration)
    (hr : r.decisionPayload = some (decisionPayload d (some draft))) :
    draftSource r = some "interpretation_only" := by
  have hget : (decisionPayload d (some draft)).get "content_draft" =
      some (contentDraftMeta (some draft)) := Json.get_insert_self rfl
  have hsource : (contentDraftMeta (some draft)).get "source" = some "interpretation_only" := by
    rw [contentDraftMeta, hdraft]
    rfl
  rw [draftSource, hr, Option.bind_some, Json.pointer, hget, Option.bind_some, Json.pointer,
    hsource]
  rfl

theorem wp_resolve_bare (hw : (w.db.row g).isSome) {draft : Json}
    (hdraft : draft.get "source" = none) (interpretation : Json) (preferred : Option String) :
    (resolve P g interpretation preferred (some draft)).run.wp anyRun (OnOk (LacksDraft g)) w := by
  obtain ⟨r, hr⟩ := Option.isSome_iff_exists.1 hw
  unfold resolve
  split
  · exact onOk_error _ _
  · refine (wp_run_bind _ _ _ _).2 ((wp_run_liftM _ _ _).2 ((wp_perform_alone _ _ _).2
      ⟨trivial, fun c _ => ?_⟩))
    refine wp_onOk_bind (J := LacksDraft g) (wp_onOk_mapErr (wp_onRow_alone hr trivial
      (fun now _ _ w' _ hrow _ => ?_) fun _ _ _ e w' => onOk_error e w')) fun _ _ h _ => h
    exact ⟨_, hrow, draftSource_decisionPayload _ hdraft _ rfl⟩

/-- A bare draft is what the draft step returns. -/
theorem returns_draftStep : Returns
    (fun r : Except WorkflowError Json => ∀ draft, r = .ok draft → draft.get "source" = none)
    (draftStep P g).run :=
  returns_run_bind _ fun _ => returns_run_bind _ fun _ => returns_run_bind _ fun result =>
    returns_run_bind _ fun _ => fun draft h => by
      cases h
      exact result.draftPayload.get_source_toJson

/-- The classification ends with a bare draft. -/
theorem wp_classify_bare (hw : (w.db.row g).isSome) :
    (classify P (workerSteps P url) g).run.wp anyRun (OnOk (LacksDraft g)) w := by
  refine wp_onOk_bind (wp_onOk (wp_rowStays _ hw)) fun _ w hw =>
    wp_onOk_bind (wp_onOk (wp_rowStays _ hw)) fun _ w hw =>
      wp_onOk_bind (wp_onOk (wp_rowStays _ hw)) fun _ w hw => ?_
  refine wp_run_seq (wp_of_returns (wp_rowStays _ hw) returns_draftStep) (fun draft w h => ?_)
    fun e w' _ => onOk_error e w'
  exact wp_onOk_bind (wp_onOk_mapErr (wp_resolve_bare h.1 (h.2 draft rfl) _ _)) fun _ _ h _ => h

/-- Calls on the row ask for no draft. -/
theorem drafts_exec {T : RowStatement → Prop} {o : Operation} (ho : RowCall T g o) (w : World)
    (c : Choice) : (o.exec w c).2.drafts = w.drafts := by
  cases o with
  | query q => rfl
  | now => rfl
  | _ => cases ho

/-- The row is there and no draft was obtained since `w₀`. -/
def NoDraft (g : Uuid) (w₀ w : World) : Prop := (w.db.row g).isSome ∧ w.drafts = w₀.drafts

/-- Calls on the row keep that. -/
theorem wp_noDraft {α : Type} {T : RowStatement → Prop} {p : Gateway α} {w₀ : World}
    (hp : OnlyCalls (RowCall T g) p) (hw : NoDraft g w₀ w) :
    p.wp anyRun (fun _ w' => NoDraft g w₀ w') w := by
  refine wp_keeps hp hw (fun _ _ _ => trivial) fun w o c ho hw => ?_
  obtain ⟨r, hr⟩ := Option.isSome_iff_exists.1 hw.1
  refine ⟨?_, (drafts_exec ho w c).trans hw.2⟩
  obtain h | ⟨st, _, h⟩ := o.exec_row c hr
  · rw [h]
    rfl
  · rw [h]
    rfl

/-- A transition keeps the decision. -/
theorem wp_lacksDraft {α : Type} {p : Gateway α} (hp : OnlyCalls (RowCall RunTransition g) p)
    (hw : LacksDraft g w) : p.wp anyRun (fun _ w' => LacksDraft g w') w := by
  refine wp_keeps hp hw (fun _ _ _ => trivial) fun w o c ho hw => ?_
  obtain ⟨r, hr, hsource⟩ := hw
  obtain h | ⟨st, rfl, h⟩ := o.exec_row c hr
  · exact ⟨r, h, hsource⟩
  · refine ⟨_, h, ?_⟩
    obtain hrow | ⟨u, rfl, _⟩ | ⟨_, _, rfl, _⟩ | ⟨_, _, _, _, p, _, _, hrow⟩ |
      ⟨_, _, _, _, _, _, _, _, rfl, _⟩ | ⟨_, _, _, _, _, _, _, rfl, _⟩ :=
        st.row_cases c.clock c.publication w.db.nextProjectId r
    · rwa [hrow]
    · cases ho.2
    · cases ho.2
    · rw [hrow]
      exact hsource
    · cases ho.2
    · cases ho.2

/-- A successful run obtains no draft, or it ends without one in the row. -/
theorem wp_ensureClassified_bare (P : Platform) (url : String) (hw : (w.db.row g).isSome) :
    (ensureClassified P (workerSteps P url) g attempt jobContext).run.wp anyRun
      (OnOk fun w' => NoDraft g w w' ∨ LacksDraft g w') w := by
  refine wp_onOk_bind (wp_onOk (wp_noDraft only_beginInterpreting ⟨hw, rfl⟩)) fun _ w₁ hw =>
    wp_onOk_bind (J := fun w' => NoDraft g w w' ∨ LacksDraft g w') ?_ fun _ w₂ hw => ?_
  · refine wp_onOk_bind (wp_onOk (wp_noDraft (only_checkpoint (T := RunTransition) _) hw)) fun b w' hw => ?_
    split
    · exact fun _ => .inl hw
    · exact wp_mono (fun _ _ h hok => .inr (h hok)) (wp_classify_bare hw.1)
  · obtain hw | hw := hw
    · exact wp_onOk (wp_mono (fun _ _ => .inl) (wp_noDraft only_finishClassified hw))
    · exact wp_onOk (wp_mono (fun _ _ => .inr) (wp_lacksDraft only_finishClassified hw))

/-- A run of `ensure_classified` that obtains a draft and succeeds leaves a row
that counts as not classified. -/
theorem hasClassification_of_draft {r : MediaGeneration} (hr : w.db.row g = some r)
    {env : Nat → Choice} {out : Outcome machine (Except WorkflowError Unit)}
    (hout : out = (ensureClassified P (workerSteps P url) g attempt jobContext).run.run machine env w)
    (hok : out.result = some (.ok ())) (hdraft : out.world.drafts ≠ w.drafts) :
    ∃ r', out.world.db.row g = some r' ∧ hasClassification r' = false := by
  subst hout
  have hrow : (w.db.row g).isSome := by
    rw [hr]
    rfl
  obtain h | ⟨r', hr', hsource⟩ := Machine.result_of_wp (wp_ensureClassified_bare P url hrow)
    (fun _ _ => trivial) hok rfl
  · exact absurd h.2 hdraft
  · refine ⟨r', hr', ?_⟩
    simp [hasClassification, hsource]

/-- The classification of the sample generation, with the worker's steps. -/
def sampleClassification (w : World) : Outcome machine (Except WorkflowError Unit) :=
  (ensureClassified asciiPlatform (workerSteps asciiPlatform "http://gateway") ⟨0⟩ 1 none).run.run
    machine (fun _ => fine) w

theorem eq_ok_of_any_isOk {ε : Type} {r : Option (Except ε Unit)} (h : r.any Except.isOk = true) :
    r = some (.ok ()) := by
  cases r with
  | none => cases h
  | some answer =>
    cases answer with
    | error e => cases h
    | ok _ => rfl

/-- A provider's draft is obtained and the run succeeds, but the row counts as
not classified. -/
theorem provider_draft_not_classified :
    ∃ (s : (system sampleGateway).State) (r : MediaGeneration),
      Reachable sampleGateway (fun _ _ => True) s ∧
      (sampleClassification s.world).result = some (.ok ()) ∧
      (sampleClassification s.world).calls.any (fun c => (c.op matches .draft _) &&
        (c.choice.draft matches .ok ⟨_, "provider", _⟩)) ∧
      (sampleClassification s.world).world.db.row ⟨0⟩ = some r ∧ hasClassification r = false := by
  have hplay : ((Pool.play (fun _ _ => True) ((system sampleGateway).start sampleWorld)
      requestRead).map fun s => ((sampleClassification s.world).result.any Except.isOk,
        (sampleClassification s.world).calls.any (fun c => (c.op matches .draft _) &&
          (c.choice.draft matches .ok ⟨_, "provider", _⟩)),
        ((sampleClassification s.world).world.db.row ⟨0⟩).map hasClassification)) =
      some (true, true, some false) := by
    decide +kernel
  obtain ⟨s, hs, he⟩ := Pool.exists_of_play hplay
  obtain ⟨hok, he⟩ := Prod.mk.inj he
  obtain ⟨hdraft, hrow⟩ := Prod.mk.inj he
  obtain ⟨r, hr, hclass⟩ := Option.map_eq_some_iff.1 hrow
  exact ⟨s, r, ⟨_, initial_sampleWorld, hs⟩, eq_ok_of_any_isOk hok, hdraft, hr, hclass⟩

/-- The same run, by the theorem. -/
theorem hasClassification_of_draft_sample :
    ∃ (s : (system sampleGateway).State) (r : MediaGeneration),
      (sampleClassification s.world).world.db.row ⟨0⟩ = some r ∧ hasClassification r = false := by
  have hplay : ((Pool.play (fun _ _ => True) ((system sampleGateway).start sampleWorld)
      requestRead).map fun s => ((sampleClassification s.world).result.any Except.isOk,
        (sampleClassification s.world).world.drafts.length, s.world.drafts.length,
        (s.world.db.row ⟨0⟩).isSome)) = some (true, 1, 0, true) := by
    decide +kernel
  obtain ⟨s, _, he⟩ := Pool.exists_of_play hplay
  obtain ⟨hok, he⟩ := Prod.mk.inj he
  obtain ⟨hlong, he⟩ := Prod.mk.inj he
  obtain ⟨hshort, hrow⟩ := Prod.mk.inj he
  obtain ⟨r, hr⟩ := Option.isSome_iff_exists.1 hrow
  refine ⟨s, hasClassification_of_draft hr rfl (eq_ok_of_any_isOk hok) fun h => ?_⟩
  rw [h, hshort] at hlong
  cases hlong

end KlassGateway
