import KlassGateway.Base
import KlassGateway.Lib.Json
import KlassGateway.Lib.Text
import KlassGateway.Orchestrator.Lifecycle
/-!
# The orchestration audit payload

Model of the helper functions of `orchestrator/audit_trail.rs`, which build and
update the JSON document stored in `orchestration_audit_payload`.

The document is a record here: it is written by this service only, so its
shape is the one `build_base_payload` gives it.  Timestamps are kept as times
instead of RFC 3339 texts.  The `provider_trace` and `resolved_output_type`
entries are constants of the document that nothing reads, and are left out.

`sanitizeMessage` and `filterContext` cut texts at a byte offset.  They answer
`none` where that offset falls inside a character, which is a panic.
-/

namespace KlassGateway.Orchestrator

open Lib

/-- `SCHEMA_VERSION` of the audit payload. -/
def auditSchemaVersion : String := "media_generation_orchestration_audit.v1"

/-- `HISTORY_LIMIT`. -/
def historyLimit : Nat := 50

/-- The `job` entry. -/
structure AuditJob where
  connection : Option String := none
  queue : Option String := none
  tries : Option Json := none
  timeoutSeconds : Option Json := none
  backoffSeconds : Option Json := none
  attempt : Int := 0
  lastRunAt : Option DateTime := none

/-- The `timing` entry. -/
structure AuditTiming where
  queuedAt : DateTime
  processingStartedAt : Option DateTime := none
  lastTransitionAt : DateTime
  completedAt : Option DateTime := none
  totalDurationMs : Option Int := none
  statusDurationsMs : List (MediaGenerationStatus × Int) := []

/-- The `latest_error` entry. -/
structure AuditError where
  errorCode : String
  errorClass : String := "orchestrator::AuditTrailService"
  message : String
  retryable : Bool
  safeContext : Json

/-- An entry of `status_history`. -/
inductive HistoryEntry where
  | statusTransition (fromStatus : Option MediaGenerationStatus)
      (toStatus : MediaGenerationStatus) (attempt : Int) (at_ : DateTime) (context : Json)
      (error : Option AuditError)
  | attemptFailed (status : MediaGenerationStatus) (attempt : Int) (at_ : DateTime)
      (context : Json) (error : AuditError)

/-- `orchestration_audit_payload`. -/
structure AuditPayload where
  schemaVersion : String := auditSchemaVersion
  currentStatus : MediaGenerationStatus := .queued
  job : AuditJob := {}
  timing : AuditTiming
  latestError : Option AuditError := none
  statusHistory : List HistoryEntry

/-- `build_base_payload`. -/
def buildBasePayload (now : DateTime) : AuditPayload where
  timing := { queuedAt := now, lastTransitionAt := now }
  statusHistory :=
    [.statusTransition none .queued 0 now (.obj [("reason", "generation_created")]) none]

/-! ## Updates of the payload -/

/-- `apply_runtime_metadata`: the keys of the job context that are present, the
attempt and the time of the run. -/
def applyRuntimeMetadata (payload : AuditPayload) (now : DateTime) (attempt : Option Int)
    (jobContext : Option Json) : AuditPayload :=
  let job := payload.job
  let job := match jobContext with
    | none => job
    | some jc =>
      { job with
        connection := ((jc.get "connection").bind Json.asStr).or job.connection
        queue := ((jc.get "queue").bind Json.asStr).or job.queue
        tries := (jc.get "tries").or job.tries
        timeoutSeconds := (jc.get "timeout_seconds").or job.timeoutSeconds
        backoffSeconds := (jc.get "backoff_seconds").or job.backoffSeconds }
  { payload with
    job := { job with attempt := attempt.getD job.attempt, lastRunAt := some now } }

/-- Add to the time spent in a status. -/
def addDuration (s : MediaGenerationStatus) (ms : Int) :
    List (MediaGenerationStatus × Int) → List (MediaGenerationStatus × Int)
  | [] => [(s, ms)]
  | (t, n) :: rest => if t = s then (t, n + ms) :: rest else (t, n) :: addDuration s ms rest

/-- Milliseconds from `since` to `now`, at least zero. -/
def elapsedMs (since now : DateTime) : Int :=
  max (now.timestampMillis - since.timestampMillis) 0

/-- `apply_transition_timing`. -/
def applyTransitionTiming (payload : AuditPayload) (fromStatus toStatus : MediaGenerationStatus)
    (now : DateTime) : AuditPayload :=
  let timing := payload.timing
  { payload with
    timing :=
      { timing with
        statusDurationsMs :=
          addDuration fromStatus (elapsedMs timing.lastTransitionAt now) timing.statusDurationsMs
        processingStartedAt :=
          if timing.processingStartedAt.isNone ∧ toStatus ≠ .queued then some now
          else timing.processingStartedAt
        completedAt := if toStatus.isTerminal then some now else timing.completedAt
        lastTransitionAt := now
        totalDurationMs := some (elapsedMs timing.queuedAt now) } }

/-- `append_history`: the newest `historyLimit` entries. -/
def appendHistory (payload : AuditPayload) (event : HistoryEntry) : AuditPayload :=
  let history := payload.statusHistory ++ [event]
  { payload with statusHistory := history.drop (history.length - historyLimit) }

/-! ## Texts and contexts -/

/-- `sanitize_message`: collapse white space, trim, cut at 240 bytes. -/
def sanitizeMessage (message : String) : Option String :=
  let collapsed := Text.trim (Text.collapseWhitespace message)
  if 240 < collapsed.utf8ByteSize then Text.takeBytes collapsed 240 else some collapsed

/-- A text of a context: trimmed, cut after `limit` bytes, sanitized.  The
inner `none` is a blank text, which is dropped. -/
def filterText (limit : Nat) (s : String) : Option (Option Json) :=
  let trimmed := Text.trim s
  if trimmed = "" then some none
  else do
    let truncated ←
      if limit < trimmed.utf8ByteSize then (Text.takeBytes trimmed (limit - 3)).map (· ++ "...")
      else some trimmed
    let clean ← sanitizeMessage truncated
    return some (.str clean)

/-- One item of an array of a context: scalars only, texts cut at 80 bytes. -/
def filterItem : Json → Option (Option Json)
  | .bool b => some (some (.bool b))
  | .num n => some (some (.num n))
  | .str s => filterText 80 s
  | _ => some none

/-- The first `room` items of an array that survive `filterItem`. -/
def filterItems : Nat → List Json → Option (List Json)
  | 0, _ => some []
  | _, [] => some []
  | room + 1, item :: items => do
    match ← filterItem item with
    | none => filterItems (room + 1) items
    | some kept => return kept :: (← filterItems room items)

/-- One value of an object of a context, given the filter for a nested
object. -/
def filterValue (nested : Json → Option Json) : Json → Option (Option Json)
  | .null => some none
  | .bool b => some (some (.bool b))
  | .num n => some (some (.num n))
  | .str s => filterText 160 s
  | .arr items => do
    let kept ← filterItems 8 items
    return if kept.isEmpty then none else some (.arr kept)
  | .obj fields => do
    let inner ← nested (.obj fields)
    return if inner.isNull then none else some inner

/-- The fields of an object that survive `filterValue`. -/
def filterFields (nested : Json → Option Json) :
    List (String × Json) → Option (List (String × Json))
  | [] => some []
  | (key, v) :: rest => do
    let kept ← filterValue nested v
    let others ← filterFields nested rest
    return match kept with
      | none => others
      | some w => (key, w) :: others

/-- `filter_context_inner` with the number of object levels still allowed. -/
def filterContextInner : Nat → Json → Option Json
  | 0, _ => some .null
  | levels + 1, v =>
    match v with
    | .obj fields => do
      let kept ← filterFields (filterContextInner levels) fields
      return if kept.isEmpty then .null else .obj kept
    | _ => some .null

/-- `filter_context`: at most two levels of objects. -/
def filterContext : Option Json → Option Json
  | none => some .null
  | some ctx => filterContextInner 2 ctx

/-- The keys that `safe_throwable_context` lets through. -/
def safeContextKeys : List String :=
  ["http_status", "config", "kind", "adapter_provider", "adapter_model",
    "adapter_primary_provider", "adapter_fallback_used", "adapter_fallback_reason"]

/-- `safe_throwable_context`: the allowed keys whose value is a scalar. -/
def safeThrowableContext (context : Option Json) : Json :=
  .obj <| safeContextKeys.filterMap fun key =>
    match context.bind (Json.get key) with
    | some (.num n) => some (key, .num n)
    | some (.bool b) => some (key, .bool b)
    | some (.str s) => some (key, .str s)
    | _ => none

end KlassGateway.Orchestrator
