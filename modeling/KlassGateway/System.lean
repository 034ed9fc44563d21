import KlassGateway.Api.Handlers
import KlassGateway.Lib.Typestate
/-!
# The system

The gateway as a pool of programs: requests, callbacks of the renderer, and
workers arrive in any order, and their programs interleave call by call.  Any
task may be lost between two calls.

A task carries a `Label`: what kind of work it is, the generation that its last
row access was about, and the phase of the workflow that it is in.
-/

namespace KlassGateway

open Lib Db Queue MediaGen Api

/-- What a task does. -/
inductive Kind where
  | create
  | regenerate
  | confirm
  | skipClarification
  | webhook (payload : MediaWebhookPayload)
  | bootWorker
  | claimPending
  /-- A run for an entry of the job stream. -/
  | worker (message : JobMessage)

/-- What is known about a task from outside. -/
structure Label where
  kind : Kind
  generation : Option Uuid := none
  span : Option StepName := none

namespace Label

/-- The label after a call. -/
def after (l : Label) : Operation → Label
  | .query q => { l with generation := q.generation.or l.generation }
  | .span step => { l with span := step }
  | _ => l

end Label

theorem kind_after (l : Label) (o : Operation) : (l.after o).kind = l.kind := by
  cases o <;> rfl

/-- What may arrive. -/
inductive Arrival where
  | create (principal : Principal) (payload : CreateRequest)
  | regenerate (principal : Principal) (id : Uuid) (additionalPrompt : String)
  | confirm (principal : Principal) (payload : ConfirmRequest)
  | skipClarification (principal : Principal) (id : Uuid)
  /-- A worker starts: `create_consumer_group`. -/
  | bootWorker
  /-- The `claim_pending` of a worker's loop. -/
  | claimPending (consumer : String)
  /-- The `read_messages` of a worker's loop.  Without its reply the entries
  are pending and no task runs for them. -/
  | readMessages (consumer : String) (replyLost : Bool)
  /-- The renderer reports a job that it owes a callback for. -/
  | callback (payload : MediaWebhookPayload)
  /-- The renderer repeats its `n`-th last callback. -/
  | duplicateCallback (n : Nat)

/-- A handler as a task: its response goes to the client. -/
def respondWith {α : Type} (p : GatewayResult AppError α) : Gateway Unit := do
  let _ ← attempt p

variable (A : AppState)

/-- The task for an entry that a worker has read. -/
def entryTask (e : StreamEntry JobMessage) : Label × Gateway Unit :=
  ({ kind := .worker e.fields, generation := some e.fields.generationId },
    workerTask A.platform (workerSteps A.platform A.webhookBaseUrl) e.id e.fields)

/-- What an arrival does to the world and which tasks it starts. -/
def arrive (w : World) : Arrival → Option (World × List (Label × Gateway Unit))
  | .create principal payload =>
    some (w, [({ kind := .create }, respondWith (create A principal payload))])
  | .regenerate principal id additionalPrompt =>
    some (w, [({ kind := .regenerate }, respondWith (regenerate A principal id additionalPrompt))])
  | .confirm principal payload =>
    some (w, [({ kind := .confirm, generation := some payload.generationId },
      respondWith (confirm A principal payload))])
  | .skipClarification principal id =>
    some (w, [({ kind := .skipClarification, generation := some id },
      respondWith (skipClarification A principal id))])
  | .bootWorker => some (w, [({ kind := .bootWorker }, do
      let _ ← attempt createConsumerGroup)])
  | .claimPending consumer => some (w, [({ kind := .claimPending }, do
      let _ ← attempt (claimPending consumer))])
  | .readMessages consumer replyLost =>
    (w.redis.jobs.readGroup consumer batchSize).map fun (entries, jobs) =>
      ({ w with redis := { w.redis with jobs } },
        if replyLost then [] else entries.map (entryTask A))
  | .callback payload =>
    (w.renderer.report payload).map fun renderer =>
      ({ w with renderer }, [({ kind := .webhook payload }, respondWith (webhookHandler A payload))])
  | .duplicateCallback n => w.renderer.reported[n]?.map fun payload =>
      (w, [({ kind := .webhook payload }, respondWith (webhookHandler A payload))])

/-- The gateway as a pool. -/
def system : Pool effects :=
  { machine with
    Label := Label
    Arrival := Arrival
    relabel := fun l o _ => l.after o
    arrive := arrive A }

/-! ## What may be spawned -/

/-- The tasks that an arrival can start. -/
inductive Spawned : Label → Gateway Unit → Prop
  | create (principal : Principal) (payload : CreateRequest) :
      Spawned { kind := .create } (respondWith (create A principal payload))
  | regenerate (principal : Principal) (id : Uuid) (additionalPrompt : String) :
      Spawned { kind := .regenerate } (respondWith (regenerate A principal id additionalPrompt))
  | confirm (principal : Principal) (payload : ConfirmRequest) :
      Spawned { kind := .confirm, generation := some payload.generationId }
        (respondWith (confirm A principal payload))
  | skipClarification (principal : Principal) (id : Uuid) :
      Spawned { kind := .skipClarification, generation := some id }
        (respondWith (skipClarification A principal id))
  | bootWorker : Spawned { kind := .bootWorker } (do let _ ← attempt createConsumerGroup)
  | claimPending (consumer : String) :
      Spawned { kind := .claimPending } (do let _ ← attempt (claimPending consumer))
  | webhook (payload : MediaWebhookPayload) :
      Spawned { kind := .webhook payload } (respondWith (webhookHandler A payload))
  | entry (e : StreamEntry JobMessage) : Spawned (entryTask A e).1 (entryTask A e).2

variable {A}

theorem spawned_of_arrive {w w' : World} {arr : Arrival} {spawned : List (Label × Gateway Unit)}
    (h : arrive A w arr = some (w', spawned)) {l : Label} {p : Gateway Unit}
    (hlp : (l, p) ∈ spawned) : Spawned A l p := by
  cases arr with
  | readMessages consumer replyLost =>
    obtain ⟨⟨entries, jobs⟩, _, he⟩ := Option.map_eq_some_iff.1 h
    obtain ⟨_, rfl⟩ := Prod.mk.inj he
    cases replyLost with
    | true => simp at hlp
    | false =>
      obtain ⟨e, _, he⟩ := List.mem_map.1 (by simpa using hlp)
      obtain ⟨rfl, rfl⟩ := Prod.mk.inj he
      exact .entry e
  | callback payload =>
    obtain ⟨renderer, _, he⟩ := Option.map_eq_some_iff.1 h
    obtain ⟨_, rfl⟩ := Prod.mk.inj he
    obtain ⟨rfl, rfl⟩ := Prod.mk.inj (List.mem_singleton.1 hlp)
    exact .webhook payload
  | duplicateCallback n =>
    obtain ⟨payload, _, he⟩ := Option.map_eq_some_iff.1 h
    obtain ⟨_, rfl⟩ := Prod.mk.inj he
    obtain ⟨rfl, rfl⟩ := Prod.mk.inj (List.mem_singleton.1 hlp)
    exact .webhook payload
  | _ =>
    cases h
    obtain ⟨rfl, rfl⟩ := Prod.mk.inj (List.mem_singleton.1 hlp)
    constructor

/-! ## Runs -/

/-- A world before the first request: the catalogue is there, and nothing
else. -/
structure Initial (w : World) : Prop where
  rows : w.db.rows = []
  redis : w.redis = {}
  renderer : w.renderer = {}

variable (A)

/-- A state that steps meeting `ok` reach from an initial world. -/
def Reachable (ok : (system A).State → (system A).Action → Prop) (s : (system A).State) : Prop :=
  ∃ w, Initial w ∧ Pool.Reach ok ((system A).start w) s

variable {A}

theorem Reachable.trans {ok : (system A).State → (system A).Action → Prop}
    {s s' : (system A).State} (h : Reachable A ok s) (h' : Pool.Reach ok s s') :
    Reachable A ok s' := by
  obtain ⟨w, hw, hr⟩ := h
  exact ⟨w, hw, hr.trans h'⟩

/-! ## A gateway for concrete histories

Text functions that agree with the real ones on the ASCII texts below, with
the digest of one request. -/

/-- The ASCII cases of the text functions. -/
def asciiPlatform : Platform where
  lowerChar c := [c.toLower]
  toLowercase s := String.ofList (s.toList.map Char.toLower)
  toUppercase s := String.ofList (s.toList.map Char.toUpper)
  sha256Hex _ := "36f2db9ffe0ca45fc9e57e2d6f12241429301ae7a63b1be0618be24642ce0097"
  rfc3339 _ := "1970-01-01T00:00:00+00:00"
  rfc3339Millis _ := "1970-01-01T00:00:00.000Z"
  jsonText _ := "{}"
  rereadFloat q := q
  jsonbFloat q := .float q
  interpretationError _ := none

/-- A gateway with Redis. -/
def sampleGateway : AppState where
  platform := asciiPlatform
  redisPool := true
  webhookBaseUrl := "http://gateway"

/-- One teacher and nothing else. -/
def sampleWorld : World := { db := { users := [7] } }

theorem initial_sampleWorld : Initial sampleWorld := ⟨rfl, rfl, rfl⟩

/-- The teacher. -/
def sampleTeacher : Principal := ⟨7, "teacher"⟩

/-- An interpretation with nothing but its version. -/
def sampleInterpretation : Llm.InterpretationPayload where
  toJson := .obj [("schema_version", "media_prompt_understanding.v1")]
  isObject := rfl
  schemaVersion := by decide

/-- A content draft. -/
def sampleDraft : Llm.ContentDraftPayload where
  schemaVersion := "media_content_draft.v1"
  title := "Fotosintesis"
  summary := "Ringkasan"
  teacherDeliverySummary := "Pengantar"

/-- A call that succeeds, whatever it is. -/
def fine : Choice where
  interpretation := .ok ⟨sampleInterpretation, "openrouter", "model"⟩
  draft := .ok ⟨sampleDraft, "provider", .null⟩
  delivery := .ok (.obj [])

/-- The next `n` calls of task `i`, all of which succeed. -/
def calls (i n : Nat) : List ((system sampleGateway).Action) := List.replicate n (.act i fine)

/-- The worker group exists, a request is created, and a worker reads its
message. -/
def requestRead : List ((system sampleGateway).Action) :=
  [.arrive .bootWorker] ++ calls 0 2 ++
  [.arrive (.create sampleTeacher { rawPrompt := "fotosintesis" })] ++ calls 1 9 ++
  [.arrive (.readMessages "worker-1" false)]

/-- The choice of a call to the interpreter that is refused for good. -/
def refused : Choice :=
  { fine with interpretation := .error (.contract "contract validation failed: title") }

/-- The run for that message fails for good. -/
def requestFailed : List ((system sampleGateway).Action) :=
  requestRead ++ calls 2 7 ++ [.act 2 refused] ++ calls 2 6

/-- The renderer reports the job of that request as completed. -/
def completedCallback : MediaWebhookPayload :=
  { jobId := ⟨1⟩, generationId := ⟨0⟩, status := "completed" }

end KlassGateway
