import Mathlib.Data.List.Basic
/-!
# The media generation lifecycle

Model of `orchestrator/lifecycle.rs`: the nine statuses, the transition matrix
and the order that the workflow checkpoints compare with.

The lemmas at the end are what the results use: a terminal status has no
successor, and no status on the path of the workflow is terminal.
-/

namespace KlassGateway.Orchestrator

/-- The nine statuses of a media generation. -/
inductive MediaGenerationStatus where
  | queued
  | interpreting
  | classified
  | generating
  | uploading
  | publishing
  | completed
  | failed
  | cancelled
  deriving DecidableEq, Repr

namespace MediaGenerationStatus

instance : Inhabited MediaGenerationStatus := ⟨queued⟩

/-- `is_terminal`. -/
def isTerminal : MediaGenerationStatus → Bool
  | completed | failed | cancelled => true
  | _ => false

/-- `can_transition`: the matrix, one row for each source status. -/
def canTransition : MediaGenerationStatus → MediaGenerationStatus → Bool
  | queued, next => (next matches interpreting | failed | cancelled)
  | interpreting, next => (next matches classified | failed | cancelled)
  | classified, next => (next matches generating | failed | cancelled)
  | generating, next => (next matches uploading | failed | cancelled)
  | uploading, next => (next matches publishing | failed | cancelled)
  | publishing, next => (next matches completed | failed)
  | completed, _ => false
  | failed, _ => false
  | cancelled, _ => false

/-- `order_index`. -/
def orderIndex : MediaGenerationStatus → Nat
  | queued => 0
  | interpreting => 1
  | classified => 2
  | generating => 3
  | uploading => 4
  | publishing => 5
  | completed => 6
  | failed => 7
  | cancelled => 8

/-- `StatusBefore::status_before`: a terminal status is before nothing. -/
def statusBefore (s checkpoint : MediaGenerationStatus) : Bool :=
  !s.isTerminal && s.orderIndex < checkpoint.orderIndex

/-- `as_str`. -/
def asStr : MediaGenerationStatus → String
  | queued => "queued"
  | interpreting => "interpreting"
  | classified => "classified"
  | generating => "generating"
  | uploading => "uploading"
  | publishing => "publishing"
  | completed => "completed"
  | failed => "failed"
  | cancelled => "cancelled"

/-- `from_str`. -/
def fromStr (s : String) : Option MediaGenerationStatus :=
  if s = "queued" then some queued
  else if s = "interpreting" then some interpreting
  else if s = "classified" then some classified
  else if s = "generating" then some generating
  else if s = "uploading" then some uploading
  else if s = "publishing" then some publishing
  else if s = "completed" then some completed
  else if s = "failed" then some failed
  else if s = "cancelled" then some cancelled
  else none

/-! ## The matrix -/

/-- Reading back the text of a status gives the status: the status column
loses nothing. -/
theorem fromStr_asStr (s : MediaGenerationStatus) : fromStr s.asStr = some s := by
  cases s <;> decide

/-- A terminal status has no successor. -/
theorem canTransition_of_isTerminal {s t : MediaGenerationStatus} (hs : s.isTerminal) :
    s.canTransition t = false := by
  cases s <;> first | rfl | cases hs

/-! ## The statuses that a run of the workflow can reach -/

/-- The statuses on the path that the workflow itself walks. -/
def isEarly : MediaGenerationStatus → Bool
  | queued | interpreting | classified | generating => true
  | _ => false

/-- An early status is not terminal. -/
theorem isTerminal_of_isEarly {s : MediaGenerationStatus} (hs : s.isEarly) :
    s.isTerminal = false := by
  cases s <;> first | rfl | cases hs

end MediaGenerationStatus

end KlassGateway.Orchestrator
