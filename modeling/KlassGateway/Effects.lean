import KlassGateway.Db.Database
import KlassGateway.Lib.Machine
import KlassGateway.Llm.Services
import KlassGateway.MediaGen.Renderer
import KlassGateway.Queue.Redis
/-!
# The world that the gateway acts on

`Operation` are the atomic calls of the handlers and of the worker, `World` is
everything they act on, and `machine` gives them their meaning.

What a call gets from outside is its `Choice`: the clock, the answer of a
language model, of the renderer or of the object store, and a `Fault`.  A call
with a fault either failed before it took effect or lost its reply after it.
Every field of a choice has a value for a call that succeeds as usual, so a
concrete history names only what matters to it.

`interpretations` and `drafts` record what the language models have answered
to which input.  Nothing reads them; results about where a payload comes from
are stated with them.
-/

namespace KlassGateway

open Lib Lib.Prog Db Queue Llm MediaGen

/-- The four phases of `WorkflowService::process`, named by their spans. -/
inductive StepName where
  | ensureClassified
  | ensureGenerated
  | ensurePublished
  | ensureCompleted
  deriving DecidableEq

/-- The atomic calls. -/
inductive Operation where
  | query (q : Query)
  | command (c : Command)
  /-- `Utc::now()`. -/
  | now
  /-- `Uuid::new_v4()`. -/
  | newUuid
  /-- Enter the span of a phase, or leave it. -/
  | span (step : Option StepName)
  | interpret (input : InterpretInput)
  | draft (input : DraftInput)
  | respond (input : RespondInput)
  /-- `POST /v1/jobs`. -/
  | postJob (request : RenderRequest)
  /-- `check_user_rate_limit`. -/
  | checkUserRateLimit (userId : Int) (endpoint : String)

namespace Operation

/-- The answer of a call. -/
def Resp : Operation → Type
  | query q => Except SqlxError q.Resp
  | command c => Except String c.Resp
  | now => DateTime
  | newUuid => Uuid
  | span _ => Unit
  | interpret _ => Except LlmError InterpretResult
  | draft _ => Except LlmError DraftResult
  | respond _ => Except LlmError Json
  | postJob _ => RendererReply
  | checkUserRateLimit _ _ => Bool

end Operation

/-- The interface of the gateway's programs. -/
def effects : Interface := ⟨Operation, Operation.Resp⟩

/-- How a database or Redis call goes wrong. -/
inductive Fault where
  | none
  /-- The call had no effect. -/
  | failed (message : String)
  /-- The call took effect and its reply was lost. -/
  | lost (message : String)

/-- What a call gets from outside. -/
structure Choice where
  fault : Fault := .none
  clock : DateTime := 0
  interpretation : Except LlmError InterpretResult := .error .rateLimited
  draft : Except LlmError DraftResult := .error .rateLimited
  delivery : Except LlmError Json := .error .rateLimited
  renderer : RendererReply := .replied 202 (.ok .null)
  publication : PublicationReplies := {}
  limited : Bool := false

/-- Everything the gateway acts on. -/
structure World where
  db : Database := {}
  redis : Redis := {}
  renderer : Renderer := {}
  interpretations : List (String × Json) := []
  drafts : List (Json × Json) := []
  nextUuid : Nat := 0

namespace Choice

/-- Every call that is answered with this choice succeeds. -/
def succeeds (c : Choice) : Bool :=
  (c.fault matches .none) && c.interpretation.isOk && c.draft.isOk && c.delivery.isOk &&
    c.renderer.succeeds && c.publication.succeed

end Choice

/-- An outcome under a fault. -/
def withFault {ε α σ : Type} (toError : String → ε) (fault : Fault) (before : σ)
    (outcome : Except ε α × σ) : Except ε α × σ :=
  match fault with
  | .none => outcome
  | .failed message => (.error (toError message), before)
  | .lost message => (.error (toError message), outcome.2)

namespace Operation

/-- Run a call. -/
def exec (w : World) : (o : Operation) → Choice → o.Resp × World
  | query q, c =>
    let (answer, db) := withFault .other c.fault w.db (q.exec c.clock c.publication w.db)
    (answer, { w with db })
  | command cmd, c =>
    let (answer, redis) := withFault id c.fault w.redis (cmd.exec w.redis)
    (answer, { w with redis })
  | now, c => (c.clock, w)
  | newUuid, _ => (⟨w.nextUuid⟩, { w with nextUuid := w.nextUuid + 1 })
  | span _, _ => ((), w)
  | interpret input, c =>
    match c.interpretation with
    | .ok result =>
      (.ok result, { w with interpretations :=
        (input.teacherPrompt, result.interpretationPayload.toJson) :: w.interpretations })
    | .error e => (.error e, w)
  | draft input, c =>
    match c.draft with
    | .ok result =>
      (.ok result, { w with drafts := (input.interpretation, result.draftPayload.toJson) :: w.drafts })
    | .error e => (.error e, w)
  | respond _, c => (c.delivery, w)
  | postJob request, c =>
    (c.renderer, { w with renderer := w.renderer.submit request.job c.renderer })
  | checkUserRateLimit _ _, c => (c.limited, w)

end Operation

/-! ## What a call can do to the world -/

namespace Operation

/-- The database after a call: as it was, or as a query leaves it. -/
theorem exec_db (w : World) (c : Choice) (o : Operation) :
    (o.exec w c).2.db = w.db ∨
    ∃ q, o = .query q ∧ (o.exec w c).2.db = (q.exec c.clock c.publication w.db).2 := by
  cases o with
  | query q =>
    simp only [exec, withFault]
    cases c.fault with
    | none => exact .inr ⟨q, rfl, rfl⟩
    | failed m => exact .inl rfl
    | lost m => exact .inr ⟨q, rfl, rfl⟩
  | interpret input =>
    simp only [exec]
    cases c.interpretation <;> exact .inl rfl
  | draft input =>
    simp only [exec]
    cases c.draft <;> exact .inl rfl
  | _ => exact .inl rfl

/-- The queue after a call: as it was, or as a command leaves it. -/
theorem exec_redis (w : World) (c : Choice) (o : Operation) :
    (o.exec w c).2.redis = w.redis ∨
    ∃ cmd, o = .command cmd ∧ (o.exec w c).2.redis = (cmd.exec w.redis).2 := by
  cases o with
  | command cmd =>
    simp only [exec, withFault]
    cases c.fault with
    | none => exact .inr ⟨cmd, rfl, rfl⟩
    | failed m => exact .inl rfl
    | lost m => exact .inr ⟨cmd, rfl, rfl⟩
  | interpret input =>
    simp only [exec]
    cases c.interpretation <;> exact .inl rfl
  | draft input =>
    simp only [exec]
    cases c.draft <;> exact .inl rfl
  | _ => exact .inl rfl

/-- The renderer's record after a call: as it was, or after a submission. -/
theorem exec_renderer (w : World) (c : Choice) (o : Operation) :
    (o.exec w c).2.renderer = w.renderer ∨
    ∃ request, o = .postJob request ∧
      (o.exec w c).2.renderer = w.renderer.submit request.job c.renderer := by
  cases o with
  | postJob request => exact .inr ⟨request, rfl, rfl⟩
  | interpret input =>
    simp only [exec]
    cases c.interpretation <;> exact .inl rfl
  | draft input =>
    simp only [exec]
    cases c.draft <;> exact .inl rfl
  | _ => exact .inl rfl

/-- Ids are drawn one at a time. -/
theorem exec_nextUuid (w : World) (c : Choice) (o : Operation) :
    (o.exec w c).2.nextUuid = w.nextUuid ∨
    o = .newUuid ∧ (o.exec w c).2.nextUuid = w.nextUuid + 1 := by
  cases o with
  | newUuid => exact .inr ⟨rfl, rfl⟩
  | interpret input =>
    simp only [exec]
    cases c.interpretation <;> exact .inl rfl
  | draft input =>
    simp only [exec]
    cases c.draft <;> exact .inl rfl
  | _ => exact .inl rfl

end Operation

/-- The machine that runs the gateway's programs. -/
def machine : Machine effects := ⟨World, Choice, Operation.exec⟩

/-! ## Calls as programs -/

/-- A program of the gateway. -/
abbrev Gateway (α : Type) := Prog effects α

/-- A program of the gateway with an error. -/
abbrev GatewayResult (ε α : Type) := Fallible effects ε α

/-- A database call. -/
def query (q : Query) : GatewayResult SqlxError q.Resp :=
  ExceptT.mk (perform (I := effects) (.query q))

/-- A Redis command. -/
def command (c : Command) : GatewayResult String c.Resp :=
  ExceptT.mk (perform (I := effects) (.command c))

/-- `Utc::now()`. -/
def utcNow : Gateway DateTime := perform (I := effects) .now

/-- `Uuid::new_v4()`. -/
def newV4 : Gateway Uuid := perform (I := effects) .newUuid

/-- `check_user_rate_limit`: whether the user is over the limit. -/
def checkUserRateLimit (userId : Int) (endpoint : String) : Gateway Bool :=
  perform (I := effects) (.checkUserRateLimit userId endpoint)

/-- `POST /v1/jobs`. -/
def postJob (request : RenderRequest) : Gateway RendererReply :=
  perform (I := effects) (.postJob request)

/-- Enter the span of a phase, or leave it. -/
def span (step : Option StepName) : Gateway Unit := perform (I := effects) (.span step)

/-- `InterpretService::interpret`. -/
def callInterpret (input : InterpretInput) : GatewayResult LlmError InterpretResult :=
  ExceptT.mk (perform (I := effects) (.interpret input))

/-- `DraftService::draft`. -/
def callDraft (input : DraftInput) : GatewayResult LlmError DraftResult :=
  ExceptT.mk (perform (I := effects) (.draft input))

/-- `RespondService::respond`. -/
def callRespond (input : RespondInput) : GatewayResult LlmError Json :=
  ExceptT.mk (perform (I := effects) (.respond input))

/-! ## Rules of the calls -/

section Rules

variable {St : Type} {spec : OpSpec effects St} {s : St}

@[simp] theorem wp_query (q : Query) (Q : Except SqlxError q.Resp → St → Prop) :
    (query q).run.wp spec Q s ↔
      spec.pre s (.query q) ∧ ∀ r s', spec.step s (.query q) r s' → Q r s' := Iff.rfl

@[simp] theorem wp_command (c : Command) (Q : Except String c.Resp → St → Prop) :
    (command c).run.wp spec Q s ↔
      spec.pre s (.command c) ∧ ∀ r s', spec.step s (.command c) r s' → Q r s' := Iff.rfl

@[simp] theorem wp_utcNow (Q : DateTime → St → Prop) :
    utcNow.wp spec Q s ↔ spec.pre s .now ∧ ∀ r s', spec.step s .now r s' → Q r s' := Iff.rfl

@[simp] theorem wp_newV4 (Q : Uuid → St → Prop) :
    newV4.wp spec Q s ↔ spec.pre s .newUuid ∧ ∀ r s', spec.step s .newUuid r s' → Q r s' := Iff.rfl

/-- A draw at the head of a fallible program. -/
theorem wp_run_draw {ε α : Type} (f : Uuid → GatewayResult ε α) (Q : Except ε α → St → Prop) :
    ((liftM newV4 : GatewayResult ε Uuid) >>= f).run.wp spec Q s ↔
      spec.pre s .newUuid ∧
        ∀ (id : Uuid) s', spec.step s .newUuid id s' → (f id).run.wp spec Q s' := by
  rw [wp_run_bind, wp_run_liftM, wp_newV4]
  rfl

@[simp] theorem wp_postJob (request : RenderRequest) (Q : RendererReply → St → Prop) :
    (postJob request).wp spec Q s ↔
      spec.pre s (.postJob request) ∧ ∀ r s', spec.step s (.postJob request) r s' → Q r s' :=
  Iff.rfl

@[simp] theorem wp_span (step : Option StepName) (Q : Unit → St → Prop) :
    (span step).wp spec Q s ↔
      spec.pre s (.span step) ∧ ∀ r s', spec.step s (.span step) r s' → Q r s' := Iff.rfl

@[simp] theorem wp_callInterpret (input : InterpretInput)
    (Q : Except LlmError InterpretResult → St → Prop) :
    (callInterpret input).run.wp spec Q s ↔
      spec.pre s (.interpret input) ∧ ∀ r s', spec.step s (.interpret input) r s' → Q r s' :=
  Iff.rfl

@[simp] theorem wp_callDraft (input : DraftInput) (Q : Except LlmError DraftResult → St → Prop) :
    (callDraft input).run.wp spec Q s ↔
      spec.pre s (.draft input) ∧ ∀ r s', spec.step s (.draft input) r s' → Q r s' := Iff.rfl

end Rules

end KlassGateway
