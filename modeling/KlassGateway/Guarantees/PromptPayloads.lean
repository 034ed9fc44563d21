import KlassGateway.Reachable
/-!
# Payloads of the current prompt

The interpret and draft steps read a row, wait for a language model and store what it has answered.
They store it whatever the row says by then, and `reset_for_reprocessing` may have given it another
prompt.

* `Fact` is what a run learns of its row inside `ensure_classified`.  A fact stays true as long as
  nobody resets the row.
* `payloads_current`: if no row is reset while a run of it is inside `ensure_classified`, every
  stored payload was computed from the prompt of its row, and a classified row has all three.
* `payload_of_old_prompt`: otherwise a run may store what it has computed from the old prompt.
-/

namespace KlassGateway

open Lib Lib.Prog Db Orchestrator Queue Llm Api

variable {A : AppState} {P : Platform}

/-! ## What is expected of the payloads -/

/-- The status is `classified`, or one that comes after it on the path of the workflow. -/
def Orchestrator.MediaGenerationStatus.isClassified : MediaGenerationStatus → Bool
  | .classified | .generating | .uploading | .publishing | .completed => true
  | _ => false

/-- The draft was written for such an interpretation.  It is given to `resolve` bare or in its
envelope. -/
def DraftedBy (interpreted : Json → Prop) (drafted : Json → Json → Prop) (draft : Json) : Prop :=
  ∃ interpretation, ∃ result : DraftResult, interpreted interpretation ∧
    drafted interpretation result.draftPayload.toJson ∧
    (draft = result.draftPayload.toJson ∨ draft = draftEnvelope result)

/-- The decision and the generation spec are those of such an interpretation and such a draft. -/
def DecidedBy (P : Platform) (interpreted : Json → Prop) (drafted : Json → Json → Prop)
    (decision spec : Json) : Prop :=
  ∃ interpretation preferred draft now, interpreted interpretation ∧
    (∀ d, draft = some d → DraftedBy interpreted drafted d) ∧
    decision = decisionPayload (decideOutput P interpretation preferred now) draft ∧
    spec = buildGenerationSpec P interpretation
      (decideOutput P interpretation preferred now).resolvedOutputType draft

/-- A model has answered the interpretation to the prompt. -/
def Interpreted (w : World) (prompt : String) (interpretation : Json) : Prop :=
  (prompt, interpretation) ∈ w.interpretations

/-- A model has answered the draft to the interpretation. -/
def Drafted (w : World) (interpretation draft : Json) : Prop :=
  (interpretation, draft) ∈ w.drafts

/-- What is expected of the payloads of a row: each was computed from its prompt, and a classified
row has all three. -/
structure PayloadsCurrent (P : Platform) (w : World) (g : MediaGeneration) : Prop where
  interpretation : ∀ payload, g.interpretationPayload = some payload →
    Interpreted w g.rawPrompt payload
  decision : g.decisionPayload = none ∧ g.generationSpecPayload = none ∨
    ∃ decision spec, g.decisionPayload = some decision ∧ g.generationSpecPayload = some spec ∧
      DecidedBy P (Interpreted w g.rawPrompt) (Drafted w) decision spec
  present : g.status.isClassified → g.interpretationPayload.isSome ∧ g.decisionPayload.isSome

/-- A run of the generation. -/
def Kind.runs (g : Uuid) : Kind → Bool
  | .worker message => message.generationId == g
  | _ => false

/-- The task is a run of the generation, inside `ensure_classified`. -/
def classifying (g : Uuid) (l : Label) : Bool :=
  l.kind.runs g && l.span == some .ensureClassified

/-- A run of the generation is inside `ensure_classified`. -/
def isClassifying (s : (system A).State) (g : Uuid) : Bool :=
  (List.range s.next).any fun i => (s.tasks i).any fun t => classifying g t.label

/-- The step resets no row while a run of it is inside `ensure_classified`. -/
def ResetsBetweenRuns (s : (system A).State) (a : (system A).Action) : Prop :=
  (Pool.called s a).all fun lo => match lo.2 with
    | .query (.onRow g (.update (.resetForReprocessing _))) => !isClassifying s g
    | _ => true

instance (s : (system A).State) (a : (system A).Action) : Decidable (ResetsBetweenRuns s a) :=
  inferInstanceAs (Decidable (_ = true))

/-! ## What a run learns -/

/-- What a run learns of the row of its generation. -/
inductive Fact where
  /-- The row has this prompt. -/
  | prompt (text : String)
  | interpreted (prompt : String) (interpretation : Json)
  | drafted (interpretation draft : Json)
  | hasInterpretation
  | hasDecision

namespace Fact

/-- The fact is true of the row of `g`. -/
def Holds (w : World) (g : Uuid) : Fact → Prop
  | prompt text => RowHolds g (fun row => row.rawPrompt = text) w
  | interpreted text interpretation => Interpreted w text interpretation
  | drafted interpretation draft => Drafted w interpretation draft
  | hasInterpretation => RowHolds g (fun row => row.interpretationPayload.isSome) w
  | hasDecision => RowHolds g (fun row => row.decisionPayload.isSome) w

/-- What a row shows. -/
def ofRow (row : MediaGeneration) : List Fact :=
  .prompt row.rawPrompt ::
    ((match row.interpretationPayload with
      | some payload => [.interpreted row.rawPrompt payload, .hasInterpretation]
      | none => []) ++
    if row.generationSpecPayload.isSome then [.hasDecision] else [])

/-- What a run of `g` learns from a call. -/
def learned (g : Uuid) (o : Operation) (r : o.Resp) : List Fact :=
  match o, r with
  | .query (.findById id), .ok (some row) => if id = g then ofRow row else []
  | .query (.onRow _ (.update (.interpretation _ _ _))), .ok _ => [.hasInterpretation]
  | .query (.onRow _ (.update (.decision _ _ _))), .ok _ => [.hasDecision]
  | .interpret input, .ok result =>
    [.interpreted input.teacherPrompt result.interpretationPayload.toJson]
  | .draft input, .ok result => [.drafted input.interpretation result.draftPayload.toJson]
  | _, _ => []

end Fact

/-- An interpretation of the prompt, as far as is known. -/
def KnownInterpretation (known : List Fact) (interpretation : Json) : Prop :=
  ∃ prompt, .prompt prompt ∈ known ∧ .interpreted prompt interpretation ∈ known

/-- A draft, as far as is known. -/
def KnownDraft (known : List Fact) (interpretation draft : Json) : Prop :=
  .drafted interpretation draft ∈ known

/-- Where a task stands: a request, or a run of `g` outside of `ensure_classified`, or inside with
what it has learned there. -/
inductive RunStand where
  | request
  | outside (g : Uuid)
  | inside (g : Uuid) (known : List Fact)

namespace RunStand

instance : Inhabited RunStand := ⟨request⟩

/-- A run of `g` enters a span, or leaves one. -/
def enter (g : Uuid) (step : Option StepName) : RunStand :=
  if step = some .ensureClassified then inside g [] else outside g

/-- Where the task stands after a call. -/
def after (m : RunStand) (o : Operation) (r : o.Resp) : RunStand :=
  match m, o, r with
  | request, _, _ => request
  | outside g, .span step, _ => enter g step
  | outside g, _, _ => outside g
  | inside g _, .span step, _ => enter g step
  | inside g known, o, r => inside g (Fact.learned g o r ++ known)

/-- The generation of a run. -/
def generation : RunStand → Option Uuid
  | request => none
  | outside g => some g
  | inside g _ => some g

/-- The run is inside, with at least these facts. -/
def Knows (g : Uuid) (facts : List Fact) (m : RunStand) : Prop :=
  ∃ known, m = inside g known ∧ facts ⊆ known

end RunStand

/-- The statements of a task: a payload is stored by a run that knows where it comes from, and
a row is classified by a run that knows that the payloads are there. -/
def StoresKnown (P : Platform) (m : RunStand) (id : Uuid) : RowStatement → Prop
  | .update (.interpretation payload _ _) =>
    ∃ known, m = .inside id known ∧ KnownInterpretation known payload
  | .update (.decision _ decision spec) => ∃ known, m = .inside id known ∧
    DecidedBy P (KnownInterpretation known) (KnownDraft known) decision spec
  | .update (.payloads p) => p = { generatorServiceResponse := p.generatorServiceResponse }
  | .transition toStatus _ _ _ => toStatus = .classified →
    m.Knows id [.hasInterpretation, .hasDecision]
  | _ => True

/-- Rows are inserted without payloads, and payloads are stored by runs that know what they are. -/
def payloadsSpec (P : Platform) : OpSpec effects RunStand where
  pre m o := match o with
    | .query (.insertSubmission row) => IsNew row
    | .query (.insertRegeneration _ row) => IsNew row
    | .query (.onRow id st) => StoresKnown P m id st
    | _ => True
  step m o r m' := m' = m.after o r

/-! ## What a call leaves -/

/-- Answers are not taken back. -/
theorem answers_exec (w : World) (o : Operation) (c : Choice) :
    w.interpretations ⊆ (o.exec w c).2.interpretations ∧ w.drafts ⊆ (o.exec w c).2.drafts := by
  cases o with
  | interpret input =>
    simp only [Operation.exec]
    cases c.interpretation with
    | ok result => exact ⟨List.subset_cons_self _ _, List.Subset.refl _⟩
    | error e => exact ⟨List.Subset.refl _, List.Subset.refl _⟩
  | draft input =>
    simp only [Operation.exec]
    cases c.draft with
    | ok result => exact ⟨List.Subset.refl _, List.subset_cons_self _ _⟩
    | error e => exact ⟨List.Subset.refl _, List.Subset.refl _⟩
  | _ => exact ⟨List.Subset.refl _, List.Subset.refl _⟩

section Rows

variable {w w' : World} {g g' : MediaGeneration} {decision spec : Json}
  {interpreted interpreted' : Json → Prop} {drafted drafted' : Json → Json → Prop}

theorem DecidedBy.mono (hi : ∀ x, interpreted x → interpreted' x)
    (hd : ∀ x y, drafted x y → drafted' x y)
    (h : DecidedBy P interpreted drafted decision spec) :
    DecidedBy P interpreted' drafted' decision spec := by
  obtain ⟨interpretation, preferred, draft, now, hinterpreted, hdraft, hdecision, hspec⟩ := h
  refine ⟨interpretation, preferred, draft, now, hi _ hinterpreted, fun d hd' => ?_, hdecision, hspec⟩
  obtain ⟨source, result, hsource, hresult, hform⟩ := hdraft d hd'
  exact ⟨source, result, hi _ hsource, hd _ _ hresult, hform⟩

/-- Payloads stay current while answers are added. -/
theorem PayloadsCurrent.mono (h : PayloadsCurrent P w g)
    (hi : w.interpretations ⊆ w'.interpretations) (hd : w.drafts ⊆ w'.drafts) :
    PayloadsCurrent P w' g := by
  refine ⟨fun payload hpayload => hi (h.interpretation payload hpayload), ?_, h.present⟩
  obtain hnone | ⟨decision, spec, hdecision, hspec, hdecided⟩ := h.decision
  · exact .inl hnone
  · exact .inr ⟨decision, spec, hdecision, hspec,
      hdecided.mono (fun _ hx => hi hx) fun _ _ hx => hd hx⟩

/-- What a row that is inserted has. -/
theorem PayloadsCurrent.of_isNew (h : IsNew g) (now : DateTime) (teacherId : Int) :
    PayloadsCurrent P w (Database.stamp now { g with teacherId }) := by
  refine ⟨fun payload hpayload => ?_, .inl ⟨h.decision, h.spec⟩, fun hstatus => ?_⟩
  · have hnone : (Database.stamp now { g with teacherId }).interpretationPayload = none :=
      h.interpretation
    rw [hnone] at hpayload
    cases hpayload
  · have hqueued : (Database.stamp now { g with teacherId }).status = .queued := h.status
    rw [hqueued] at hstatus
    cases hstatus

/-- The columns that matter are as before, and the row is not newly classified. -/
theorem PayloadsCurrent.of_columns (h : PayloadsCurrent P w g) (hprompt : g'.rawPrompt = g.rawPrompt)
    (hinterpretation : g'.interpretationPayload = g.interpretationPayload)
    (hdecision : g'.decisionPayload = g.decisionPayload)
    (hspec : g'.generationSpecPayload = g.generationSpecPayload)
    (hstatus : g'.status.isClassified → g.status.isClassified) : PayloadsCurrent P w g' := by
  obtain ⟨hi, hd, hp⟩ := h
  refine ⟨?_, ?_, ?_⟩
  · rw [hprompt, hinterpretation]
    exact hi
  · rw [hprompt, hdecision, hspec]
    exact hd
  · rw [hinterpretation, hdecision]
    exact fun h => hp (hstatus h)

/-- Where a transition leads to a classified status, it starts from one, or it is the one that
classifies. -/
theorem isClassified_of_transition {s t : MediaGenerationStatus} (h : s = t ∨ s.canTransition t)
    (ht : t.isClassified) : s.isClassified ∨ t = .classified := by
  obtain rfl | h := h
  · exact .inl ht
  · revert h ht
    cases s <;> cases t <;> decide

variable {m : RunStand}

theorem interpreted_of_known (hrow : w.db.row g.id = some g) {known : List Fact}
    (hknown : ∀ x ∈ known, x.Holds w g.id) {interpretation : Json}
    (h : KnownInterpretation known interpretation) : Interpreted w g.rawPrompt interpretation := by
  obtain ⟨prompt, hprompt, hinterpreted⟩ := h
  obtain ⟨row, hrow', rfl⟩ := hknown _ hprompt
  obtain rfl := Option.some.inj (hrow.symm.trans hrow')
  exact hknown _ hinterpreted

/-- A statement that stores what is known keeps the payloads current. -/
theorem PayloadsCurrent.statement (hg : PayloadsCurrent P w g) (hrow : w.db.row g.id = some g)
    (hknown : ∀ known, m = .inside g.id known → ∀ x ∈ known, x.Holds w g.id) {st : RowStatement}
    (hst : StoresKnown P m g.id st) (now : DateTime) (replies : MediaGen.PublicationReplies)
    (projectId : Int) : PayloadsCurrent P w (st.row now replies projectId g) := by
  obtain h | ⟨u, rfl, h⟩ | ⟨_, _, _, h⟩ | ⟨toStatus, _, _, _, _, rfl, hedge, h⟩ |
    ⟨_, _, _, _, _, _, _, _, _, _, h⟩ | ⟨_, _, _, _, _, _, _, _, h⟩ :=
      st.row_cases now replies projectId g
  · rw [h]
    exact hg
  · rw [h]
    cases u with
    | payloads p =>
      rw [show p = _ from hst]
      exact hg.of_columns rfl rfl rfl rfl id
    | interpretation payload provider model =>
      obtain ⟨known, rfl, hpayload⟩ := hst
      have hinterpreted := interpreted_of_known hrow (hknown known rfl) hpayload
      refine ⟨fun payload' he => ?_, hg.decision, fun hstatus => ⟨rfl, (hg.present hstatus).2⟩⟩
      obtain rfl := Option.some.inj he
      exact hinterpreted
    | decision type decision spec =>
      obtain ⟨known, rfl, hdecided⟩ := hst
      have hfacts := hknown known rfl
      exact ⟨hg.interpretation, .inr ⟨decision, spec, rfl, rfl, hdecided.mono
        (fun _ hx => interpreted_of_known hrow hfacts hx) fun x y hx => hfacts (.drafted x y) hx⟩,
        fun hstatus => ⟨(hg.present hstatus).1, rfl⟩⟩
    | resetForReprocessing prompt => exact ⟨nofun, .inl ⟨rfl, rfl⟩, nofun⟩
    | _ => exact hg.of_columns rfl rfl rfl rfl id
  · rw [h]
    exact hg.of_columns rfl rfl rfl rfl id
  · rw [h]
    refine ⟨hg.interpretation, hg.decision, fun hstatus => ?_⟩
    obtain hold | rfl := isClassified_of_transition hedge hstatus
    · exact hg.present hold
    · -- The run that classifies the row knows that the payloads are there.
      obtain ⟨known, rfl, hsub⟩ := hst rfl
      have hfacts := hknown known rfl
      obtain ⟨row, hrow', hinterpretation⟩ := hfacts _ (hsub List.mem_cons_self)
      obtain rfl := Option.some.inj (hrow.symm.trans hrow')
      obtain ⟨row, hrow', hdecision⟩ := hfacts _ (hsub (List.mem_cons_of_mem _ List.mem_cons_self))
      obtain rfl := Option.some.inj (hrow.symm.trans hrow')
      exact ⟨hinterpretation, hdecision⟩
  · rw [h]
    exact hg.of_columns rfl rfl rfl rfl nofun
  · rw [h]
    exact hg.of_columns rfl rfl rfl rfl id

end Rows

section Facts

variable {w : World} {id : Uuid} {known : List Fact} {o : Operation}

/-- The call resets the row. -/
def ResetsRow (id : Uuid) (o : Operation) : Prop :=
  ∃ prompt, o = .query (.onRow id (.update (.resetForReprocessing prompt)))

/-- A statement other than a reset keeps the prompt, and the payloads that are there. -/
theorem row_keeps (g : MediaGeneration) {st : RowStatement}
    (hst : ∀ prompt, st ≠ .update (.resetForReprocessing prompt)) (now : DateTime)
    (replies : MediaGen.PublicationReplies) (projectId : Int) :
    (st.row now replies projectId g).rawPrompt = g.rawPrompt ∧
    (g.interpretationPayload.isSome → (st.row now replies projectId g).interpretationPayload.isSome) ∧
    (g.decisionPayload.isSome → (st.row now replies projectId g).decisionPayload.isSome) := by
  obtain h | ⟨u, rfl, h⟩ | ⟨_, _, _, h⟩ | ⟨_, _, _, _, _, _, _, h⟩ |
    ⟨_, _, _, _, _, _, _, _, _, _, h⟩ | ⟨_, _, _, _, _, _, _, _, h⟩ :=
      st.row_cases now replies projectId g
  case inr.inl =>
    rw [h]
    cases u with
    | resetForReprocessing prompt => exact absurd rfl (hst prompt)
    | payloads p =>
      have hor (a b : Option Json) (hb : b.isSome) : (a.or b).isSome := by
        cases a with
        | some x => rfl
        | none => exact hb
      exact ⟨rfl, hor _ _, hor _ _⟩
    | interpretation payload provider model => exact ⟨rfl, fun _ => rfl, id⟩
    | decision type decision spec => exact ⟨rfl, id, fun _ => rfl⟩
    | _ => exact ⟨rfl, id, id⟩
  all_goals
    rw [h]
    exact ⟨rfl, id, id⟩

/-- A fact stays true while the row is not reset. -/
theorem Fact.Holds.exec {x : Fact} (h : x.Holds w id) (o : Operation) (c : Choice)
    (ho : ¬ ResetsRow id o) : x.Holds (o.exec w c).2 id := by
  have hrow {I : MediaGeneration → Prop} (hI : RowHolds id I w)
      (hkeep : ∀ g (st : RowStatement) now replies projectId,
        (∀ prompt, st ≠ .update (.resetForReprocessing prompt)) → I g →
          I (st.row now replies projectId g)) : RowHolds id I (o.exec w c).2 := by
    obtain ⟨g, hg, hIg⟩ := hI
    obtain hsame | ⟨st, rfl, hafter⟩ := o.exec_row c hg
    · exact ⟨g, hsame, hIg⟩
    · exact ⟨_, hafter, hkeep _ _ _ _ _ (fun prompt he => ho ⟨prompt, by rw [he]⟩) hIg⟩
  cases x with
  | prompt text =>
    exact hrow h fun g st now replies projectId hst hg =>
      (row_keeps g hst now replies projectId).1.trans hg
  | interpreted text interpretation => exact (answers_exec w o c).1 h
  | drafted interpretation draft => exact (answers_exec w o c).2 h
  | hasInterpretation =>
    exact hrow h fun g st now replies projectId hst hg =>
      (row_keeps g hst now replies projectId).2.1 hg
  | hasDecision =>
    exact hrow h fun g st now replies projectId hst hg =>
      (row_keeps g hst now replies projectId).2.2 hg

/-- What a row shows is true of it. -/
theorem Fact.holds_of_row {row : MediaGeneration} (hrow : w.db.row id = some row)
    (hcurrent : PayloadsCurrent P w row) : ∀ x ∈ Fact.ofRow row, x.Holds w id := by
  intro x hx
  obtain rfl | hx := List.mem_cons.1 hx
  · exact ⟨row, hrow, rfl⟩
  · obtain hx | hx := List.mem_append.1 hx
    · cases hi : row.interpretationPayload with
      | none =>
        rw [hi] at hx
        cases hx
      | some payload =>
        rw [hi] at hx
        obtain rfl | hx := List.mem_cons.1 hx
        · exact hcurrent.interpretation payload hi
        · obtain rfl := List.mem_singleton.1 hx
          exact ⟨row, hrow, Option.isSome_of_eq_some hi⟩
    · split at hx
      · next hspec =>
        obtain rfl := List.mem_singleton.1 hx
        obtain ⟨_, hnone⟩ | ⟨decision, spec, hdecision, _⟩ := hcurrent.decision
        · rw [hnone] at hspec
          cases hspec
        · exact ⟨row, hrow, Option.isSome_of_eq_some hdecision⟩
      · cases hx

/-- What a run learns from a call is true. -/
theorem Fact.learned_holds (hcurrent : ∀ g ∈ w.db.rows, PayloadsCurrent P w g)
    (hknown : ∀ x ∈ known, x.Holds w id) (hpre : (payloadsSpec P).pre (.inside id known) o)
    (c : Choice) : ∀ x ∈ Fact.learned id o (o.exec w c).1, x.Holds (o.exec w c).2 id := by
  intro x hx
  cases o with
  | query q =>
    cases q with
    | findById id' =>
      match h : (Operation.exec w (.query (.findById id')) c).1 with
      | .ok (some row) =>
        rw [h] at hx
        have hrow := Operation.findById_answer h
        dsimp only [learned] at hx
        split at hx
        · next he =>
          subst he
          exact (Fact.holds_of_row hrow (hcurrent row (Table.find_mem hrow)) x hx).exec _ c nofun
        · cases hx
      | .ok none =>
        rw [h] at hx
        cases hx
      | .error e =>
        rw [h] at hx
        cases hx
    | onRow id' st =>
      cases st with
      | update u =>
        cases u with
        | interpretation payload provider model =>
          obtain ⟨known', hmode, prompt, hprompt, _⟩ := hpre
          obtain ⟨rfl, rfl⟩ := RunStand.inside.inj hmode
          obtain ⟨row, hrow, _⟩ := hknown _ hprompt
          match h : (Operation.exec w (.query (.onRow id
              (.update (.interpretation payload provider model)))) c).1 with
          | .ok r =>
            rw [h] at hx
            obtain rfl := List.mem_singleton.1 hx
            exact ⟨_, Operation.row_of_answer hrow h, rfl⟩
          | .error e =>
            rw [h] at hx
            cases hx
        | decision type decision spec =>
          obtain ⟨known', hmode, interpretation, _, _, _, ⟨prompt, hprompt, _⟩, _⟩ := hpre
          obtain ⟨rfl, rfl⟩ := RunStand.inside.inj hmode
          obtain ⟨row, hrow, _⟩ := hknown _ hprompt
          match h : (Operation.exec w (.query (.onRow id
              (.update (.decision type decision spec)))) c).1 with
          | .ok r =>
            rw [h] at hx
            obtain rfl := List.mem_singleton.1 hx
            exact ⟨_, Operation.row_of_answer hrow h, rfl⟩
          | .error e =>
            rw [h] at hx
            cases hx
        | _ => cases hx
      | _ => cases hx
    | _ => cases hx
  | interpret input =>
    simp only [Operation.exec] at hx ⊢
    cases hc : c.interpretation with
    | ok result =>
      rw [hc] at hx
      obtain rfl := List.mem_singleton.1 hx
      exact List.mem_cons_self
    | error e =>
      rw [hc] at hx
      cases hx
  | draft input =>
    simp only [Operation.exec] at hx ⊢
    cases hc : c.draft with
    | ok result =>
      rw [hc] at hx
      obtain rfl := List.mem_singleton.1 hx
      exact List.mem_cons_self
    | error e =>
      rw [hc] at hx
      cases hx
  | _ => cases hx

end Facts

/-! ## The discipline -/

/-- A run is labelled as one, also with the span that it is in, and what it has learned is true. -/
def StandOk (w : World) (l : Label) : RunStand → Prop
  | .request => True
  | .outside g => l.kind.runs g
  | .inside g known => classifying g l ∧ ∀ x ∈ known, x.Holds w g

/-- The discipline. -/
def payloads (A : AppState) : Discipline (system A) RunStand where
  spec := payloadsSpec A.platform
  inv w v := (∀ g ∈ w.db.rows, PayloadsCurrent A.platform w g) ∧
    ∀ i l m, v i = some (l, m) → StandOk w l m

section Steps

variable {w w' : World} {l : Label} {m : RunStand} {g : Uuid} {o : Operation}

theorem classifying_iff : classifying g l ↔ l.kind.runs g ∧ l.span = some .ensureClassified := by
  simp [classifying]

/-- A run in a span. -/
theorem standOk_enter (h : l.kind.runs g) (step : Option StepName) :
    StandOk w { l with span := step } (.enter g step) := by
  unfold RunStand.enter
  split
  · next hstep => exact ⟨classifying_iff.2 ⟨h, hstep⟩, nofun⟩
  · exact h

/-- Where a task stands after a call of another one that does not reset its row. -/
theorem StandOk.exec (h : StandOk w l m) (ho : ∀ g, classifying g l → ¬ ResetsRow g o)
    (c : Choice) : StandOk (o.exec w c).2 l m := by
  cases m with
  | request => trivial
  | outside g => exact h
  | inside g known => exact ⟨h.1, fun x hx => (h.2 x hx).exec o c (ho g h.1)⟩

/-- Where it stands after a call of its own. -/
theorem StandOk.call (h : StandOk w l m) (hcurrent : ∀ g ∈ w.db.rows, PayloadsCurrent P w g)
    (hpre : (payloadsSpec P).pre m o) (ho : ∀ g, classifying g l → ¬ ResetsRow g o) (c : Choice) :
    StandOk (o.exec w c).2 (l.after o) (m.after o (o.exec w c).1) := by
  cases m with
  | request => trivial
  | outside g =>
    cases o with
    | span step => exact standOk_enter h step
    | _ => exact h
  | inside g known =>
    have hfacts : ∀ x ∈ Fact.learned g o (o.exec w c).1 ++ known, x.Holds (o.exec w c).2 g := by
      intro x hx
      obtain hnew | hold := List.mem_append.1 hx
      · exact Fact.learned_holds hcurrent h.2 hpre c x hnew
      · exact (h.2 x hold).exec o c (ho g h.1)
    cases o with
    | span step => exact standOk_enter (classifying_iff.1 h.1).1 step
    | _ => exact ⟨h.1, hfacts⟩

/-- Facts are about the rows and the answers. -/
theorem StandOk.of_world (h : StandOk w l m) (hdb : w'.db = w.db)
    (hi : w'.interpretations = w.interpretations) (hd : w'.drafts = w.drafts) :
    StandOk w' l m := by
  cases m with
  | request => trivial
  | outside g => exact h
  | inside g known =>
    refine ⟨h.1, fun x hx => ?_⟩
    have hold := h.2 x hx
    cases x <;> simpa only [Fact.Holds, RowHolds, Interpreted, Drafted, hdb, hi, hd] using hold

/-- A row is not reset while a run of it is classifying. -/
theorem not_resetsRow {s : (system A).State} {a : (system A).Action}
    (hok : ResetsBetweenRuns s a) (hn : Pool.NumberedBelow s) (hcall : Pool.called s a = some (l, o))
    {j : Nat} {t : Task (system A)} (htj : s.tasks j = some t) (h : classifying g t.label) :
    ¬ ResetsRow g o := by
  rintro ⟨prompt, rfl⟩
  have hlt : j < s.next := by
    by_contra hle
    rw [hn j (Nat.le_of_not_lt hle)] at htj
    cases htj
  have hyes : isClassifying s g :=
    List.any_eq_true.2 ⟨j, List.mem_range.2 hlt, (Option.any_eq_true _ _).2 ⟨t, htj, h⟩⟩
  unfold ResetsBetweenRuns at hok
  rw [hcall] at hok
  have hno : (!isClassifying s g) = true := hok
  rw [hyes] at hno
  cases hno

/-- Where a task starts. -/
def startStand (l : Label) : RunStand :=
  match l.kind with
  | .worker message => .outside message.generationId
  | _ => .request

theorem standOk_start (w : World) (l : Label) : StandOk w l (startStand l) := by
  unfold startStand
  split
  · next message hkind =>
    show l.kind.runs message.generationId
    rw [hkind]
    exact beq_self_eq_true _
  · trivial

end Steps

/-- Every task but the worker's follows it. -/
theorem payloads_admits (P : Platform) : Admits P (payloadsSpec P) where
  handler m o h := by
    cases o with
    | query q =>
      cases q with
      | onRow id st =>
        cases st with
        | update u =>
          cases u with
          | payloads p => exact h
          | interpretation payload provider model => cases h
          | decision type decision spec => cases h
          | _ => trivial
        | transition toStatus context attempt jobContext => cases h
        | _ => trivial
      | insertSubmission row => cases h
      | insertRegeneration parentId row => cases h
      | _ => trivial
    | _ => trivial
  submission _ id _ input _ := isNew_toRow input id
  regeneration _ _ parent _ id _ prompt _ _ := isNew_regenerationRow parent prompt id

/-! ## Runs -/

/-- A call that stores no payload, classifies no row and inserts none. -/
def StoresNothing : Operation → Prop
  | .query (.insertSubmission _) => False
  | .query (.insertRegeneration _ _) => False
  | .query (.onRow _ (.transition toStatus _ _ _)) => toStatus ≠ .classified
  | .query (.onRow _ (.update (.payloads _))) => False
  | .query (.onRow _ (.update (.interpretation _ _ _))) => False
  | .query (.onRow _ (.update (.decision _ _ _))) => False
  | _ => True

/-- Such a call, and no span. -/
def StaysInside (o : Operation) : Prop := StoresNothing o ∧ ∀ step, o ≠ .span step

section Runs

variable {g : Uuid} {known facts : List Fact} {m : RunStand} {o : Operation} {url : String}
  {T : RowStatement → Prop}

/-- Such calls are allowed anywhere. -/
theorem pre_of_storesNothing (h : StoresNothing o) (m : RunStand) : (payloadsSpec P).pre m o := by
  cases o with
  | query q =>
    cases q with
    | onRow id st =>
      cases st with
      | update u =>
        cases u with
        | payloads p => cases h
        | interpretation payload provider model => cases h
        | decision type decision spec => cases h
        | _ => trivial
      | transition toStatus context attempt jobContext => exact fun he => absurd he h
      | _ => trivial
    | insertSubmission row => cases h
    | insertRegeneration parentId row => cases h
    | _ => trivial
  | _ => trivial

theorem storesNothing_of_deliver (o : Operation) (h : DeliverCall DeliverStatement g o) :
    StoresNothing o := by
  obtain (h | h) | h := h
  · cases o with
    | query q =>
      cases q with
      | onRow id st =>
        obtain ⟨-, hst⟩ := h
        cases st with
        | update u =>
          cases u with
          | payloads p => cases hst
          | interpretation payload provider model => cases hst
          | decision type decision spec => cases hst
          | _ => trivial
        | transition toStatus context attempt jobContext =>
          rintro rfl
          exact absurd (show MediaGenerationStatus.classified ∈ deliverTargets from hst) (by decide)
        | _ => trivial
      | insertSubmission row => cases h
      | insertRegeneration parentId row => cases h
      | _ => trivial
    | _ => trivial
  · cases o with
    | query q =>
      cases q with
      | insertSubmission row => cases h
      | insertRegeneration parentId row => cases h
      | onRow id st => cases h
      | _ => trivial
    | _ => trivial
  · cases o with
    | query q => cases h
    | _ => trivial

theorem storesNothing_of_submit {jobId : Uuid} (o : Operation) (h : SubmitCall g jobId o) :
    StoresNothing o := by
  obtain rfl | ⟨request, rfl, -⟩ := h <;> trivial

theorem storesNothing_of_tail (o : Operation) (h : TailCall g o) : StoresNothing o := by
  obtain h | h := h
  · cases o with
    | query q => cases h
    | _ => trivial
  · cases o with
    | query q =>
      cases q with
      | onRow id st =>
        cases st with
        | markFailed => trivial
        | _ => cases h
      | _ => cases h
    | _ => trivial

/-- What is known inside stays known, and what a call teaches is added. -/
theorem knows_of_step {r : o.Resp} {m' : RunStand} (hstep : (payloadsSpec P).step m o r m')
    (h : m.Knows g facts) (ho : ∀ step, o ≠ .span step) :
    m'.Knows g (Fact.learned g o r ++ facts) := by
  obtain ⟨known, rfl, hsub⟩ := h
  rw [show m' = RunStand.after (.inside g known) o r from hstep]
  cases o with
  | span step => exact absurd rfl (ho step)
  | _ => exact ⟨_, rfl, List.append_subset.2
      ⟨List.subset_append_left _ _, List.Subset.trans hsub (List.subset_append_right _ _)⟩⟩

theorem RunStand.Knows.mono (h : m.Knows g facts) {facts' : List Fact} (hsub : facts' ⊆ facts) :
    m.Knows g facts' := by
  obtain ⟨known, rfl, hknown⟩ := h
  exact ⟨known, rfl, List.Subset.trans hsub hknown⟩

/-- A program that stores nothing keeps what is known. -/
theorem wp_knows {α : Type} {p : Gateway α} (hp : OnlyCalls StaysInside p) (h : m.Knows g facts) :
    p.wp (payloadsSpec P) (fun _ m' => m'.Knows g facts) m := by
  refine hp.wp_pre h fun m o hm ho => ⟨pre_of_storesNothing ho.1 m, fun r m' hstep => ?_⟩
  exact (knows_of_step hstep hm ho.2).mono (List.subset_append_right _ _)

/-! ### Inside `ensure_classified` -/

theorem staysInside_of_rowCall (hT : ∀ st, T st → StoresNothing (.query (.onRow g st)))
    (o : Operation) (h : RowCall T g o) : StaysInside o := by
  cases o with
  | query q =>
    cases q with
    | onRow id st =>
      obtain ⟨rfl, hst⟩ := h
      exact ⟨hT st hst, nofun⟩
    | findById id => exact ⟨trivial, nofun⟩
    | _ => cases h
  | now => exact ⟨trivial, nofun⟩
  | _ => cases h

/-- A read stays inside. -/
theorem staysInside_of_read (o : Operation) (h : RowCall (fun _ => False) g o) : StaysInside o :=
  staysInside_of_rowCall (fun _ h => h.elim) o h

theorem wp_onValue_of_knows {α ε : Type} {p : GatewayResult ε α}
    (hp : p.run.wp (payloadsSpec P) (fun _ m' => m'.Knows g facts) m) :
    p.run.wp (payloadsSpec P) (OnValue fun _ m' => m'.Knows g facts) m :=
  wp_mono (fun _ _ h _ _ => h) hp

/-- A run that reads its row knows what the row shows. -/
theorem wp_selectRow_known (h : m.Knows g facts) :
    (selectRow g).run.wp (payloadsSpec P) (OnValue fun row m' =>
      m'.Knows g ((row.map Fact.ofRow).getD [] ++ facts)) m := by
  refine wp_onValue_mapErr ((wp_query _ _).2 ⟨trivial, fun r m' hstep => ?_⟩)
  cases r with
  | error e => exact onValue_error e _
  | ok row =>
    refine onValue_ok ((knows_of_step hstep h nofun).mono ?_)
    cases row with
    | none => exact List.Subset.refl _
    | some row =>
      show _ ⊆ (if g = g then Fact.ofRow row else []) ++ facts
      rw [if_pos rfl]
      exact List.Subset.refl _

theorem wp_fetchRow_known (h : m.Knows g facts) :
    (fetchRow g).run.wp (payloadsSpec P) (OnValue fun row m' =>
      m'.Knows g (Fact.ofRow row ++ facts)) m := by
  refine wp_onValue_bind (wp_selectRow_known h) fun row m' hm' => ?_
  cases row with
  | some row => exact onValue_ok hm'
  | none => exact onValue_error _ _

/-- The facts of a row with an interpretation. -/
theorem known_of_row {row : MediaGeneration} {payload : Json}
    (h : row.interpretationPayload = some payload) : KnownInterpretation (Fact.ofRow row) payload := by
  refine ⟨row.rawPrompt, List.mem_cons_self, List.mem_cons_of_mem _ (List.mem_append_left _ ?_)⟩
  rw [h]
  exact List.mem_cons_self

/-- A classified row has its payloads. -/
theorem facts_of_classification {row : MediaGeneration} (h : hasClassification row) :
    [.hasInterpretation, .hasDecision] ⊆ Fact.ofRow row := by
  simp only [hasClassification, Bool.and_eq_true, hasSchemaVersion] at h
  obtain ⟨⟨⟨hi, hs⟩, -⟩, -⟩ := h
  have hinterpretation : Fact.hasInterpretation ∈ Fact.ofRow row := by
    cases hi' : row.interpretationPayload with
    | none =>
      rw [hi'] at hi
      cases hi
    | some payload =>
      refine List.mem_cons_of_mem _ (List.mem_append_left _ ?_)
      rw [hi']
      exact List.mem_cons_of_mem _ List.mem_cons_self
  have hdecision : Fact.hasDecision ∈ Fact.ofRow row := by
    cases hs' : row.generationSpecPayload with
    | none =>
      rw [hs'] at hs
      cases hs
    | some payload =>
      refine List.mem_cons_of_mem _ (List.mem_append_right _ ?_)
      rw [if_pos (Option.isSome_of_eq_some hs')]
      exact List.mem_cons_self
  exact List.cons_subset.2 ⟨hinterpretation, List.cons_subset.2 ⟨hdecision, List.nil_subset _⟩⟩

theorem KnownInterpretation.mono {facts' : List Fact} (hsub : facts ⊆ facts') {payload : Json}
    (h : KnownInterpretation facts payload) : KnownInterpretation facts' payload := by
  obtain ⟨prompt, hprompt, hinterpreted⟩ := h
  exact ⟨prompt, hsub hprompt, hsub hinterpreted⟩

/-- A resolution from what is known leaves a decision. -/
theorem wp_resolve_known (h : m.Knows g facts) {interpretation : Json} {preferred : Option String}
    {draft : Option Json} (hinterpretation : KnownInterpretation facts interpretation)
    (hdraft : ∀ d, draft = some d → DraftedBy (KnownInterpretation facts) (KnownDraft facts) d) :
    (resolve P g interpretation preferred draft).run.wp (payloadsSpec P)
      (OnValue fun _ m' => m'.Knows g (.hasDecision :: facts)) m := by
  unfold resolve
  split
  · exact onValue_error _ _
  · refine (wp_run_bind _ _ _ _).2 ((wp_run_liftM _ _ _).2
      ((wp_utcNow _).2 ⟨trivial, fun now m' hstep => ?_⟩))
    obtain ⟨known, hmode, hsub⟩ := knows_of_step hstep h nofun
    have hdecided : DecidedBy P (KnownInterpretation known) (KnownDraft known)
        (decisionPayload (decideOutput P interpretation preferred now) draft)
        (buildGenerationSpec P interpretation
          (decideOutput P interpretation preferred now).resolvedOutputType draft) :=
      DecidedBy.mono (fun _ hx => hx.mono hsub) (fun _ _ hx => hsub hx)
        ⟨interpretation, preferred, draft, now, hinterpretation, hdraft, rfl, rfl⟩
    refine wp_onValue_bind (R := fun _ m' => m'.Knows g (.hasDecision :: facts))
      (wp_onValue_mapErr ((wp_query _ _).2 ⟨⟨known, hmode, hdecided⟩, fun r m'' hstep => ?_⟩))
      fun _ m' hm' => onValue_ok hm'
    cases r with
    | error e => exact onValue_error e _
    | ok row => exact onValue_ok (knows_of_step hstep ⟨known, hmode, hsub⟩ nofun)

/-- The interpretation that a run stores was answered to the prompt that it has read. -/
theorem wp_interpretStep_known (h : m.Knows g facts) :
    (interpretStep g).run.wp (payloadsSpec P) (OnValue fun payload m' =>
      ∃ facts', m'.Knows g facts' ∧ KnownInterpretation facts' payload ∧
        .hasInterpretation ∈ facts') m := by
  refine wp_onValue_bind (wp_fetchRow_known h) fun row m₁ h₁ => ?_
  refine wp_onValue_bind (wp_onValue_of_knows (wp_knows (only_namedContext
    (fun _ => only_query ⟨trivial, nofun⟩) _) h₁)) fun subject m₂ h₂ => ?_
  refine wp_onValue_bind (wp_onValue_of_knows (wp_knows (only_namedContext
    (fun _ => only_query ⟨trivial, nofun⟩) _) h₂)) fun subSubject m₃ h₃ => ?_
  refine wp_onValue_bind (R := fun result m' => m'.Knows g
      ([.interpreted row.rawPrompt result.interpretationPayload.toJson] ++
        (Fact.ofRow row ++ facts)))
    (wp_onValue_mapErr ((wp_callInterpret _ _).2 ⟨trivial, fun r m₄ hstep => ?_⟩))
    fun result m₄ h₄ => ?_
  · cases r with
    | error e => exact onValue_error e _
    | ok result => exact onValue_ok (knows_of_step hstep h₃ nofun)
  · have hknown : KnownInterpretation
        ([.interpreted row.rawPrompt result.interpretationPayload.toJson] ++
          (Fact.ofRow row ++ facts)) result.interpretationPayload.toJson :=
      ⟨row.rawPrompt, List.mem_cons_of_mem _ List.mem_cons_self, List.mem_cons_self⟩
    obtain ⟨known, hmode, hsub⟩ := h₄
    refine wp_onValue_bind (R := fun _ m' => m'.Knows g ([.hasInterpretation] ++ known))
      (wp_onValue_mapErr ((wp_query _ _).2 ⟨⟨known, hmode, hknown.mono hsub⟩,
        fun r m₅ hstep => ?_⟩)) fun _ m₅ h₅ => ?_
    · cases r with
      | error e => exact onValue_error e _
      | ok updated =>
        exact onValue_ok (knows_of_step hstep ⟨known, hmode, List.Subset.refl _⟩ nofun)
    · exact onValue_ok ⟨_, h₅, (hknown.mono hsub).mono (List.subset_append_right _ _),
        List.mem_cons_self⟩

theorem wp_readInterpretation_known (row : MediaGeneration) (h : m.Knows g facts) :
    (readInterpretation P row).run.wp (payloadsSpec P) (OnValue fun payload m' =>
      m'.Knows g facts ∧ row.interpretationPayload = some payload) m := by
  unfold readInterpretation
  split
  · exact onValue_error _ _
  · next payload hpayload =>
    split
    · exact onValue_error _ _
    · exact onValue_ok ⟨h, hpayload⟩

/-- The draft that a run obtains was written for an interpretation of the prompt. -/
theorem wp_draftStep_known (h : m.Knows g facts) :
    (draftStep P g).run.wp (payloadsSpec P) (OnValue fun draft m' =>
      ∃ facts', m'.Knows g facts' ∧ facts ⊆ facts' ∧
        DraftedBy (KnownInterpretation facts') (KnownDraft facts') draft) m := by
  refine wp_onValue_bind (wp_fetchRow_known h) fun row m₁ h₁ => ?_
  refine wp_onValue_bind (wp_readInterpretation_known row h₁) fun interpretation m₂ h₂ => ?_
  obtain ⟨h₂, hrow⟩ := h₂
  refine wp_onValue_bind (R := fun result m' => m'.Knows g
      ([.drafted interpretation result.draftPayload.toJson] ++ (Fact.ofRow row ++ facts)))
    (wp_onValue_mapErr ((wp_callDraft _ _).2 ⟨trivial, fun r m₃ hstep => ?_⟩))
    fun result m₃ h₃ => ?_
  · cases r with
    | error e => exact onValue_error e _
    | ok result => exact onValue_ok (knows_of_step hstep h₂ nofun)
  · have hinterpretation : KnownInterpretation
        ([.drafted interpretation result.draftPayload.toJson] ++ (Fact.ofRow row ++ facts))
        interpretation :=
      (known_of_row hrow).mono
        (List.Subset.trans (List.subset_append_left _ _) (List.subset_append_right _ _))
    have hdraft (draft : Json)
        (hform : draft = result.draftPayload.toJson ∨ draft = draftEnvelope result) :
        DraftedBy (KnownInterpretation
            ([.drafted interpretation result.draftPayload.toJson] ++ (Fact.ofRow row ++ facts)))
          (KnownDraft
            ([.drafted interpretation result.draftPayload.toJson] ++ (Fact.ofRow row ++ facts)))
          draft :=
      ⟨interpretation, result, hinterpretation, List.mem_cons_self, hform⟩
    refine wp_onValue_bind (wp_onValue_mapErr (wp_resolve_known h₃ hinterpretation fun d hd => ?_))
      fun _ m₄ h₄ => ?_
    · obtain rfl := Option.some.inj hd
      exact hdraft _ (.inr rfl)
    · refine onValue_ok ⟨_, h₄.mono (List.subset_cons_self _ _), ?_, hdraft _ (.inl rfl)⟩
      exact List.Subset.trans (List.subset_append_right _ _) (List.subset_append_right _ _)

/-- What a run knows when it classifies its row. -/
def Classified (g : Uuid) {α : Type} (_ : α) (m : RunStand) : Prop :=
  m.Knows g [.hasInterpretation, .hasDecision]

theorem DraftedBy.known_mono {facts' : List Fact} (hsub : facts ⊆ facts') {draft : Json}
    (h : DraftedBy (KnownInterpretation facts) (KnownDraft facts) draft) :
    DraftedBy (KnownInterpretation facts') (KnownDraft facts') draft := by
  obtain ⟨interpretation, result, hinterpretation, hdraft, hform⟩ := h
  exact ⟨interpretation, result, hinterpretation.mono hsub, hsub hdraft, hform⟩

theorem wp_classify_known (h : m.Knows g facts) :
    (classify P (workerSteps P url) g).run.wp (payloadsSpec P) (OnValue (Classified g)) m := by
  refine wp_onValue_bind (wp_interpretStep_known h) fun interpretation m₁ h₁ => ?_
  obtain ⟨facts₁, h₁, hinterpretation, hhas⟩ := h₁
  refine wp_onValue_bind (wp_onValue_of_knows (wp_knows
    (only_selectRow.mono staysInside_of_read) h₁)) fun row m₂ h₂ => ?_
  refine wp_onValue_bind (wp_onValue_mapErr (wp_resolve_known h₂ hinterpretation nofun))
    fun _ m₃ h₃ => ?_
  refine wp_onValue_bind (wp_draftStep_known h₃) fun draft m₄ h₄ => ?_
  obtain ⟨facts₄, h₄, hsub, hdraft⟩ := h₄
  have hsub' : facts₁ ⊆ facts₄ := List.Subset.trans (List.subset_cons_self _ _) hsub
  refine wp_onValue_bind (wp_onValue_mapErr (wp_resolve_known h₄ (hinterpretation.mono hsub')
    fun d hd => ?_)) fun _ m₅ h₅ => onValue_ok (h₅.mono ?_)
  · obtain rfl := Option.some.inj hd
    exact hdraft
  · exact List.cons_subset.2 ⟨List.mem_cons_of_mem _ (hsub' hhas),
      List.cons_subset.2 ⟨List.mem_cons_self, List.nil_subset _⟩⟩

/-- A run finds its row classified, or classifies it. -/
theorem wp_classifyOnce_known (h : m.Knows g facts) :
    (classifyOnce P (workerSteps P url) g).run.wp (payloadsSpec P) (OnValue (Classified g)) m := by
  refine wp_onValue_bind (R := fun b m' => if b then Classified g b m' else m'.Knows g facts)
    (wp_onValue_bind (wp_selectRow_known h) fun row m₁ h₁ => onValue_ok ?_) fun b m₁ h₁ => ?_
  · cases row with
    | none => exact h₁
    | some row =>
      show if hasClassification row then RunStand.Knows g _ m₁ else _
      split
      · next hclassified =>
        exact h₁.mono (List.Subset.trans (facts_of_classification hclassified)
          (List.subset_append_left _ _))
      · exact h₁.mono (List.subset_append_right _ _)
  · cases b with
    | true => exact onValue_ok h₁
    | false => exact wp_classify_known h₁

variable {attempt : Int} {jobContext : Option Json}

theorem wp_ensureClassified_known (h : m.Knows g facts) :
    (ensureClassified P (workerSteps P url) g attempt jobContext).run.wp (payloadsSpec P)
      (fun _ _ => True) m := by
  have hbegin : OnlyCalls StaysInside (beginInterpreting g attempt jobContext).run := by
    refine safe_run_bind ((only_statusBefore _).mono staysInside_of_read) fun b => ?_
    split
    · have hnothing : StoresNothing (.query (.onRow g (.transition .interpreting
          (some (.obj [("step", "interpretation")])) (some attempt) jobContext))) := nofun
      exact (only_requestTransition (T := fun st => StoresNothing (.query (.onRow g st)))
        hnothing).mono (staysInside_of_rowCall fun _ h => h)
    · exact safe_run_pure _
  refine wp_run_seq (wp_knows hbegin h) (fun _ m₁ h₁ => ?_) fun _ _ _ => trivial
  refine wp_run_seq (wp_classifyOnce_known h₁) (fun _ m₂ h₂ => ?_) fun _ _ _ => trivial
  refine wp_mono (fun _ _ _ => trivial) (only_finishClassified.wp_pre (h₂ _ rfl)
    fun m o hm ho => ⟨?_, fun r m' hstep => ?_⟩)
  · cases o with
    | query q =>
      cases q with
      | onRow id st =>
        obtain ⟨rfl, hst⟩ := ho
        cases st with
        | transition toStatus context attempt jobContext => exact fun _ => hm
        | _ => cases hst
      | findById id => trivial
      | _ => cases ho
    | _ => trivial
  · refine (knows_of_step hstep hm ?_).mono (List.subset_append_right _ _)
    rintro step rfl
    cases ho

/-! ### The task for an entry -/

/-- Outside of `ensure_classified` a run stores nothing. -/
theorem safe_of_storesNothing {α : Type} {p : Gateway α} (hp : OnlyCalls StoresNothing p) :
    Safe (payloadsSpec P) p := hp.safe fun _ ho m => pre_of_storesNothing ho m

theorem wp_outside {α : Type} {p : Gateway α} (hp : OnlyCalls StaysInside p) :
    p.wp (payloadsSpec P) (fun _ m' => m' = .outside g) (.outside g) := by
  refine hp.wp fun o ho => ⟨pre_of_storesNothing ho.1 _, fun r m' hstep => ?_⟩
  rw [show m' = RunStand.after (.outside g) o r from hstep]
  cases o with
  | span step => exact absurd rfl (ho.2 step)
  | _ => rfl

/-- What the phases after the classification send stores nothing. -/
theorem storesNothing_of_deliverCall (h : DeliverCall UncomposedStatement g o) :
    StoresNothing o :=
  storesNothing_of_deliver o (DeliverCall.mono UncomposedStatement.deliver o h)

theorem only_ensureGenerated_nothing {jobId : Option Uuid} :
    OnlyCalls StoresNothing (timedStep .ensureGenerated (ensureGenerated (workerSteps P url) g jobId
      attempt jobContext)).run := by
  refine safe_timedStep (fun _ _ => trivial) (safe_run_bind ?_ fun _ => ?_)
  · exact only_beginGenerating.mono fun o h =>
      storesNothing_of_deliverCall (RowCall.deliver o h)
  · exact only_submitGeneration.mono fun o h => h.elim
      (fun h => storesNothing_of_deliverCall (RowCall.deliver o h))
      fun ⟨_, _, h⟩ => storesNothing_of_submit o h

theorem only_deliver_nothing :
    OnlyCalls StoresNothing (deliver (workerSteps P url) g attempt jobContext).run := by
  have hcompose : OnlyCalls StoresNothing (composeStep g).run :=
    (only_composeStep (T := DeliverStatement) fun _ => trivial).mono fun o h =>
      storesNothing_of_deliver o (.inl h)
  exact safe_deliver (fun _ h _ => storesNothing_of_deliverCall h) hcompose

theorem payloads_process (jobId : Option Uuid) (attempt : Option Int) :
    (process P (workerSteps P url) g jobId attempt jobContext).run.wp (payloadsSpec P)
      (fun _ _ => True) (.outside g) := by
  have hinitialize : OnlyCalls StaysInside (initializeAudit g).run :=
    (only_initializeAudit (T := fun st => st = .initializeAudit) rfl).mono
      (staysInside_of_rowCall (by rintro st rfl; trivial))
  refine wp_run_seq (wp_outside (safe_run_mapErr hinitialize)) (fun _ m hm => ?_) fun _ _ _ => trivial
  subst hm
  refine wp_run_seq (wp_outside (only_getStatus.mono staysInside_of_read)) (fun s m hm => ?_)
    fun _ _ _ => trivial
  subst hm
  split
  · trivial
  · refine wp_run_seq (R := fun _ _ => True) ?_ (fun _ m _ => safe_run_bind
      (safe_of_storesNothing only_ensureGenerated_nothing)
      (fun _ => safe_of_storesNothing only_deliver_nothing) m)
      fun _ _ _ => trivial
    refine (wp_bind _ _ _ _).2 ⟨trivial, fun _ m hstep => ?_⟩
    have hknows : m.Knows g [] := ⟨[], hstep, List.Subset.refl _⟩
    refine (wp_bind _ _ _ _).2 (wp_mono (fun r m' _ => ?_) (wp_ensureClassified_known hknows))
    exact ⟨trivial, fun _ _ _ => trivial⟩

/-- The task for an entry, from its start. -/
theorem follows_entry_payloads {e : StreamEntry JobMessage} :
    (entryTask A e).2.wp (payloadsSpec A.platform) (fun _ _ => True)
      (.outside e.fields.generationId) := by
  refine (wp_bind _ _ _ _).2 (wp_mono (fun r m _ => ?_) (payloads_process _ _))
  cases r with
  | ok _ =>
    exact safe_of_storesNothing ((only_ackEntry _).mono fun o h => storesNothing_of_tail
      (g := e.fields.generationId) o (.inl h)) m
  | error err =>
    exact safe_of_storesNothing ((only_handleFailure _ _ _).mono storesNothing_of_tail) m

end Runs

/-! ## Every reachable state -/

/-- Every task follows the discipline from where it starts. -/
theorem follows_payloads {l : Label} {p : Gateway Unit} (h : Spawned A l p) :
    p.wp (payloadsSpec A.platform) (fun _ _ => True) (startStand l) := by
  obtain hreq | ⟨e, rfl, rfl⟩ := h.request_or_entry (payloads_admits A.platform)
  · exact hreq _
  · exact follows_entry_payloads

/-- Every step keeps the discipline. -/
theorem payloads_kept : (payloads A).Kept fun s a =>
    ResetsBetweenRuns s a ∧ RowsOk s.world ∧ Pool.NumberedBelow s where
  mono w v v' hv hinv := by
    refine ⟨hinv.1, fun i l m hi => ?_⟩
    obtain h | h := hv i
    · rw [h] at hi
      cases hi
    · exact hinv.2 i l m (h ▸ hi)
  act s f i c l o k hok hti hinv hpre := by
    obtain ⟨hreset, hrows, hnumbered⟩ := hok
    obtain ⟨hcurrent, hstands⟩ := hinv
    obtain ⟨hinterpretations, hdrafts⟩ := answers_exec s.world o c
    have hown : StandOk s.world l (f i) := hstands i l (f i) (Discipline.view_of_task hti)
    have hno {j : Nat} {t : Task (system A)} (htj : s.tasks j = some t) (g : Uuid)
        (h : classifying g t.label) : ¬ ResetsRow g o :=
      not_resetsRow hreset hnumbered (Pool.called_act hti) htj h
    refine ⟨(f i).after o (o.exec s.world c).1, rfl, ?_, fun j lj m hj => ?_⟩
    · refine o.forall_rows_exec
        (fun g hg => (hcurrent g hg).mono hinterpretations hdrafts)
        (fun q row ho hq _ => ?_) fun id st g ho hmem hid => ?_
      · subst ho
        obtain ⟨row', teacherId, rfl, rfl | ⟨parentId, rfl⟩⟩ := Query.inserted_cases hq
        · exact .of_isNew hpre _ _
        · exact .of_isNew hpre _ _
      · subst ho hid
        refine ((hcurrent g hmem).statement (hrows.row_of_mem hmem) (fun known hmode => ?_) hpre
          _ _ _).mono hinterpretations hdrafts
        rw [hmode] at hown
        exact hown.2
    · by_cases hji : j = i
      · subst hji
        rw [Function.update_self] at hj
        obtain ⟨rfl, rfl⟩ := Prod.mk.inj (Option.some.inj hj)
        exact hown.call hcurrent hpre (hno hti) c
      · rw [Function.update_of_ne hji] at hj
        obtain ⟨t, htj, he⟩ := Option.map_eq_some_iff.1 hj
        obtain ⟨rfl, rfl⟩ := Prod.mk.inj he
        exact (hstands j _ _ (Discipline.view_of_task htj)).exec (hno htj) c
  arrive s f arr w spawned _ harr hinv := by
    obtain ⟨jobs, renderer, hw⟩ := arrive_world harr
    refine ⟨Discipline.startModes startStand spawned, fun n l p hn => ?_, ?_⟩
    · rw [Discipline.startModes_of_getElem startStand hn]
      exact follows_payloads (spawned_of_arrive harr (List.mem_of_getElem? hn))
    · subst hw
      refine ⟨fun g hg => (hinv.1 g hg).mono (List.Subset.refl _) (List.Subset.refl _),
        fun i l m hi => ?_⟩
      dsimp only at hi
      split at hi
      · exact (hinv.2 i l m hi).of_world rfl rfl rfl
      · obtain ⟨⟨l', p⟩, hn, he⟩ := Option.map_eq_some_iff.1 hi
        obtain ⟨rfl, rfl⟩ := Prod.mk.inj he
        rw [Discipline.startModes_of_getElem startStand hn]
        exact standOk_start _ _

/-- In every state that is reached without resetting a row while a run of it is inside
`ensure_classified`, the payloads of every row were computed from its prompt, and a row that is
classified or further has all of them. -/
theorem payloads_current {s : (system A).State} (hs : Reachable A ResetsBetweenRuns s) :
    ∀ g ∈ s.world.db.rows, PayloadsCurrent A.platform s.world g := by
  obtain ⟨w, hw, h⟩ := hs.with_rowsOk
  have hstart : (payloads A).inv w fun _ => none := by
    refine ⟨fun g hg => ?_, fun _ _ _ hi => by cases hi⟩
    rw [hw.rows] at hg
    cases hg
  have hrun := h.with_invariant fun t ht => show Pool.NumberedBelow t from Pool.tasks_of_le ht
  obtain ⟨f, hinv, -⟩ := Discipline.holds_of_reach payloads_kept
    (hrun.mono fun _ _ hok => ⟨hok.1.1, hok.1.2, hok.2⟩) (Discipline.holds_start hstart)
  exact hinv.1

/-- The teacher confirms the request with a longer prompt. -/
def confirmed : Arrival :=
  .confirm sampleTeacher { generationId := ⟨0⟩, enrichedPrompt := "fotosintesis untuk kelas 5" }

/-- Another interpretation. -/
def laterInterpretation : InterpretationPayload where
  toJson := .obj [("schema_version", "media_prompt_understanding.v1"), ("language", "id")]
  isObject := rfl
  schemaVersion := by decide

/-- A call that succeeds, with that interpretation. -/
def fineLater : Choice := { fine with interpretation := .ok ⟨laterInterpretation, "openrouter", "model"⟩ }

/-- A request is confirmed before a worker reads it, and the run for the new message classifies
it. -/
def confirmedFirst : List ((system sampleGateway).Action) :=
  [.arrive .bootWorker] ++ calls 0 2 ++
  [.arrive (.create sampleTeacher { rawPrompt := "fotosintesis" })] ++ calls 1 9 ++
  [.arrive confirmed] ++ calls 2 9 ++ [.arrive (.readMessages "worker-1" false)] ++ calls 4 21

/-- The run of a request has the answer to its prompt and has not stored it.  The request is
confirmed, another run classifies it, and now the first run stores its answer. -/
def confirmedMeanwhile : List ((system sampleGateway).Action) :=
  requestRead ++ calls 2 8 ++ [.arrive confirmed] ++ calls 3 9 ++
  [.arrive (.readMessages "worker-1" false)] ++ List.replicate 21 (.act 4 fineLater) ++ calls 2 1

/-- A confirmation before the run: the payloads are those of the new prompt. -/
theorem payloads_current_confirmed :
    ∃ (s : (system sampleGateway).State) (g : MediaGeneration), g ∈ s.world.db.rows ∧
      g.rawPrompt = "fotosintesis untuk kelas 5" ∧ g.status = .classified ∧
      PayloadsCurrent asciiPlatform s.world g := by
  have hplay : ((Pool.play ResetsBetweenRuns ((system sampleGateway).start sampleWorld)
      confirmedFirst).map fun s => (s.world.db.row ⟨0⟩).map fun g => (g.rawPrompt, g.status)) =
      some (some ("fotosintesis untuk kelas 5", .classified)) := by
    decide +kernel
  obtain ⟨s, hs, he⟩ := Pool.exists_of_play hplay
  obtain ⟨g, hg, he⟩ := Option.map_eq_some_iff.1 he
  obtain ⟨hprompt, hstatus⟩ := Prod.mk.inj he
  have hmem := Table.find_mem hg
  exact ⟨s, g, hmem, hprompt, hstatus, payloads_current ⟨_, initial_sampleWorld, hs⟩ g hmem⟩

/-- A classified row with an interpretation that was not answered to its prompt. -/
theorem payload_of_old_prompt :
    ∃ (s : (system sampleGateway).State) (g : MediaGeneration) (payload : Json),
      Reachable sampleGateway (fun _ _ => True) s ∧ g ∈ s.world.db.rows ∧ g.status = .classified ∧
      g.interpretationPayload = some payload ∧ ¬ Interpreted s.world g.rawPrompt payload ∧
      ¬ PayloadsCurrent asciiPlatform s.world g := by
  have hplay : ((Pool.play (fun _ _ => True) ((system sampleGateway).start sampleWorld)
      confirmedMeanwhile).map fun s => (s.world.db.row ⟨0⟩).map fun g => (g.status,
        g.interpretationPayload.map fun payload => (payload.get "language").isSome,
        s.world.interpretations.all fun x => x.1 != g.rawPrompt || (x.2.get "language").isSome)) =
      some (some (.classified, some false, true)) := by
    decide +kernel
  obtain ⟨s, hs, he⟩ := Pool.exists_of_play hplay
  obtain ⟨g, hg, he⟩ := Option.map_eq_some_iff.1 he
  obtain ⟨hstatus, he⟩ := Prod.mk.inj he
  obtain ⟨hpayload, hanswers⟩ := Prod.mk.inj he
  obtain ⟨payload, hpayload, hlanguage⟩ := Option.map_eq_some_iff.1 hpayload
  have hother : ¬ Interpreted s.world g.rawPrompt payload := by
    intro h
    have hanswer := List.all_eq_true.1 hanswers _ h
    rw [bne_self_eq_false, Bool.false_or, hlanguage] at hanswer
    cases hanswer
  exact ⟨s, g, payload, ⟨_, initial_sampleWorld, hs⟩, Table.find_mem hg, hstatus, hpayload, hother,
    fun h => hother (h.interpretation payload hpayload)⟩

end KlassGateway
