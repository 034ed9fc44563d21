import KlassGateway.Footprints
/-!
# What the requests follow

The requests that insert rows draw an id and insert the new row under it at
once, and everything else that they and the other handlers call is a
`HandlerCall`.  A specification that `Admits` these calls is therefore followed
by every task but the worker's (`Spawned.request_or_entry`).
-/

namespace KlassGateway

open Lib Lib.Prog Db Orchestrator Queue Api

/-- A row as the submission service inserts it. -/
structure IsNew (row : MediaGeneration) : Prop where
  key : row.activeDuplicateKey = some row.requestFingerprint
  status : row.status = .queued
  interpretation : row.interpretationPayload = none
  decision : row.decisionPayload = none
  spec : row.generationSpecPayload = none

/-- The calls of the requests are allowed: those of the handlers in every
state, and an insertion right after its id was drawn.  A regeneration has read
its parent before. -/
structure Admits {St : Type} (P : Platform) (spec : OpSpec effects St) : Prop where
  handler : ∀ s o, HandlerCall o → spec.pre s o
  submission : ∀ s id s' (input : CreateInput), spec.step s .newUuid id s' →
    spec.pre s' (.query (.insertSubmission (input.toRow P id)))
  regeneration : ∀ s parentId parent s' id s'' prompt,
    spec.step s (.query (.findById parentId)) (.ok (some parent)) s' →
    spec.step s' .newUuid id s'' →
    spec.pre s'' (.query (.insertRegeneration parentId (regenerationRow P parent prompt id)))

variable {P : Platform} {A : AppState} {St : Type} {spec : OpSpec effects St}

theorem isNew_toRow (input : CreateInput) (id : Uuid) : IsNew (input.toRow P id) :=
  ⟨rfl, rfl, rfl, rfl, rfl⟩

theorem isNew_regenerationRow (parent : MediaGeneration) (prompt : String) (id : Uuid) :
    IsNew (regenerationRow P parent prompt id) := ⟨rfl, rfl, rfl, rfl, rfl⟩

section Admits

variable (hspec : Admits P spec)
include hspec

theorem safe_of_handlerCall {α : Type} {p : Gateway α} (h : OnlyCalls HandlerCall p) :
    Safe spec p := h.safe fun o ho s => hspec.handler s o ho

theorem safe_lookupDuplicate (input : CreateInput) :
    Safe spec (lookupDuplicate P input).run :=
  safe_run_mapErr (safe_of_handlerCall hspec (only_query trivial))

theorem safe_recoverInsert (input : CreateInput) (e : SqlxError) :
    Safe spec (recoverInsert P input e).run := by
  unfold recoverInsert
  split
  · refine safe_run_bind (safe_lookupDuplicate hspec input) fun r => ?_
    cases r with
    | some id => exact safe_run_pure _
    | none => exact safe_run_throw _
  · exact safe_run_throw _

theorem safe_createOrReuse (input : CreateInput) :
    Safe spec (createOrReuse P input).run := by
  refine safe_run_bind (safe_lookupDuplicate hspec input) fun r => ?_
  cases r with
  | some id => exact safe_run_pure _
  | none =>
    intro s
    rw [wp_run_draw]
    refine ⟨hspec.handler s _ trivial, fun id s' hdraw => ?_⟩
    rw [wp_run_bind, wp_run_resultOf, wp_query]
    refine ⟨hspec.submission s id s' input hdraw, fun r s'' _ => ?_⟩
    cases r with
    | ok _ => exact safe_run_pure _ s''
    | error e => exact safe_recoverInsert hspec input e s''

theorem safe_createRegeneration (parentId : Uuid) (prompt : String) :
    Safe spec (createRegeneration P parentId prompt).run := by
  intro s
  refine (wp_run_bind _ _ _ _).2 ((wp_run_mapErr _ _ _ _).2
    ((wp_query _ _).2 ⟨hspec.handler s _ trivial, fun r s₁ hread => ?_⟩))
  match r with
  | .error e => trivial
  | .ok none => trivial
  | .ok (some parent) =>
    refine (wp_run_draw _ _).2 ⟨hspec.handler s₁ _ trivial, fun id s₂ hdraw => ?_⟩
    refine (wp_run_bind _ _ _ _).2 ((wp_run_mapErr _ _ _ _).2 ((wp_query _ _).2
      ⟨hspec.regeneration s parentId parent s₁ id s₂ prompt hread hdraw, fun r s₃ _ => ?_⟩))
    cases r with
    | ok _ => exact safe_run_pure _ s₃
    | error e => trivial

end Admits

section Handlers

variable (hspec : Admits A.platform spec)
include hspec

theorem safe_create (principal : Principal) (payload : CreateRequest) :
    Safe spec (create A principal payload).run := by
  refine safe_run_bind (safe_of_handlerCall hspec (only_requireTeacher _)) fun _ =>
    safe_run_bind (safe_of_handlerCall hspec (only_checkRateLimit _ _)) fun _ =>
      safe_run_bind (safe_run_mapErr (safe_createOrReuse hspec _)) fun result => ?_
  split
  · exact safe_run_bind (safe_of_handlerCall hspec (only_startJob _)) fun _ => safe_run_pure _
  · exact safe_of_handlerCall hspec (only_answerExisting _ _)

theorem safe_regenerate (principal : Principal) (id : Uuid) (prompt : String) :
    Safe spec (regenerate A principal id prompt).run := by
  refine safe_run_bind (safe_of_handlerCall hspec (only_requireTeacher _)) fun _ =>
    safe_run_bind (safe_of_handlerCall hspec (only_checkRateLimit _ _)) fun _ =>
      safe_run_bind (safe_run_mapErr (safe_of_handlerCall hspec (only_findByIdForTeacher _ _)))
        fun r => ?_
  cases r with
  | none => exact safe_run_throw _
  | some parent =>
    dsimp only
    split
    · exact safe_run_throw _
    · exact safe_run_bind (safe_run_mapErr (safe_createRegeneration hspec _ _)) fun newId =>
        safe_run_bind (safe_run_liftM (safe_of_handlerCall hspec (only_startRegeneration _))) fun _ =>
          safe_of_handlerCall hspec (only_answerRegeneration _ _)

theorem safe_confirm (principal : Principal) (payload : ConfirmRequest) :
    Safe spec (confirm A principal payload).run := by
  refine safe_run_bind (safe_of_handlerCall hspec (only_requireTeacher _)) fun _ => ?_
  split
  · exact safe_run_throw _
  · refine safe_run_bind (safe_run_mapErr (safe_of_handlerCall hspec (only_findByIdForTeacher _ _)))
      fun r => ?_
    cases r with
    | some g =>
      dsimp only
      split
      · exact safe_of_handlerCall hspec (only_answerTerminal _)
      · exact safe_of_handlerCall hspec (only_reprocess _ _ _ _ _)
    | none => exact safe_run_bind (safe_run_mapErr (safe_createOrReuse hspec _)) fun _ =>
        safe_of_handlerCall hspec (only_reprocess _ _ _ _ _)

/-- A task is a worker's, or it follows every specification that admits the
requests. -/
theorem Spawned.request_or_entry {l : Label} {p : Gateway Unit} (h : Spawned A l p) :
    Safe spec p ∨ ∃ e, l = (entryTask A e).1 ∧ p = (entryTask A e).2 := by
  have respond {α : Type} {q : GatewayResult AppError α} (hq : Safe spec q.run) :
      Safe spec (respondWith q) := safe_bind hq fun _ => safe_ret _
  cases h with
  | create principal payload => exact .inl (respond (safe_create hspec principal payload))
  | regenerate principal id additionalPrompt =>
    exact .inl (respond (safe_regenerate hspec principal id additionalPrompt))
  | confirm principal payload => exact .inl (respond (safe_confirm hspec principal payload))
  | skipClarification principal id =>
    exact .inl (respond (safe_of_handlerCall hspec (only_skipClarification principal id)))
  | bootWorker => exact .inl (safe_bind (safe_of_handlerCall hspec only_createConsumerGroup)
      fun _ => safe_ret _)
  | claimPending consumer => exact .inl (safe_bind (safe_of_handlerCall hspec (only_claimPending consumer))
      fun _ => safe_ret _)
  | webhook payload =>
    exact .inl (respond (safe_of_handlerCall hspec (only_webhookHandler payload)))
  | entry e => exact .inr ⟨e, rfl, rfl⟩

end Handlers

end KlassGateway
