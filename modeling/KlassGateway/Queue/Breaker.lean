import KlassGateway.Queue.Worker
/-!
# The circuit breaker of the worker

Model of the loop of `Worker::run` in `queue/worker.rs` with its two shared counters,
`consecutive_failures` and `circuit_open_until`.  The loop and the tasks that it spawns
share them, and each access is a step of its own, as is everything that the loop waits
for.  Time is in whole seconds, as the loop reads it.

* `LoopAt` says where an iteration of the loop is, and `TaskAt` where a task is.  A task
  knows the time that its iteration has read.
* `step` is one step of the loop or of a task, or time that passes.

A pause of the loop while the circuit is open only delays its next check.  What a task
does after the breaker (the dead letter, the backoff, the acknowledgement) ends with its
permit given back.
-/

namespace KlassGateway.Queue.Breaker

open Lib

/-- `CIRCUIT_BREAKER_THRESHOLD`. -/
def threshold : Nat := 5

/-- `CIRCUIT_BREAKER_COOLDOWN_SECS`. -/
def cooldownSecs : Nat := 60

/-- Where the loop is.  An iteration carries the time that it has read. -/
inductive LoopAt where
  | start
  | check (nowEpoch : Nat)
  | resetOpen (nowEpoch : Nat)
  | resetFailures (nowEpoch : Nat)
  | claim (nowEpoch : Nat)
  | read (nowEpoch : Nat)
  | spawn (nowEpoch : Nat) (attempts : List Int)
  | stopped
  deriving DecidableEq

/-- Where a task is. -/
inductive TaskAt where
  /-- `process` runs. -/
  | running (nowEpoch : Nat) (attempt : Int)
  /-- It has reset the failures, and `circuit_open_until` comes next. -/
  | succeeded
  /-- It has counted its failure, and opens the circuit next. -/
  | counted (nowEpoch : Nat)
  /-- The rest of the task. -/
  | finishing
  | gone
  deriving DecidableEq

/-- The worker.  `permits` is what is left of the semaphore. -/
structure State where
  now : Nat
  consecutiveFailures : Nat := 0
  circuitOpenUntil : Nat := 0
  loopAt : LoopAt := .start
  tasks : List TaskAt := []
  permits : Nat

/-- What happens next.  A read brings entries, known by their attempts, or an error. -/
inductive Event where
  | tick (seconds : Nat)
  | clock
  | check
  | resetOpen
  | resetFailures
  | claimed (ok : Bool)
  | readDone (entries : Option (List Int))
  | spawn
  | finish (i : Nat) (result : Except String Unit)
  | store (i : Nat)
  | exit (i : Nat)

variable (P : Platform)

/-- The two failures that go to the dead letters: a permanent error, and the last
attempt. -/
def endsInDlq (attempt : Int) (errorMsg : String) : Bool :=
  !isRetryableError P errorMsg || decide (maxTries < attempt + 1)

namespace State

/-- A task goes on. -/
def setTask (s : State) (i : Nat) (t : TaskAt) : State := { s with tasks := s.tasks.set i t }

@[simp] theorem setTask_now (s : State) (i : Nat) (t : TaskAt) : (s.setTask i t).now = s.now := rfl

@[simp] theorem setTask_open (s : State) (i : Nat) (t : TaskAt) :
    (s.setTask i t).circuitOpenUntil = s.circuitOpenUntil := rfl

@[simp] theorem setTask_loopAt (s : State) (i : Nat) (t : TaskAt) :
    (s.setTask i t).loopAt = s.loopAt := rfl

/-- The check of the breaker at the top of the loop. -/
def checked (s : State) (nowEpoch : Nat) : State :=
  if 0 < s.circuitOpenUntil ∧ nowEpoch < s.circuitOpenUntil then { s with loopAt := .start }
  else if 0 < s.circuitOpenUntil ∧ s.circuitOpenUntil ≤ nowEpoch then
    { s with loopAt := .resetOpen nowEpoch }
  else { s with loopAt := .claim nowEpoch }

/-- What a task does to the failures when `process` ends. -/
def finished (s : State) (i nowEpoch : Nat) (attempt : Int) : Except String Unit → State
  | .ok () => { s with consecutiveFailures := 0 }.setTask i .succeeded
  | .error errorMsg =>
    if endsInDlq P attempt errorMsg then
      let newFailures := s.consecutiveFailures + 1
      { s with consecutiveFailures := newFailures }.setTask i
        (if threshold ≤ newFailures then .counted nowEpoch else .finishing)
    else s.setTask i .finishing

end State

/-- One step. -/
def step (s : State) : Event → Option State
  | .tick seconds => some { s with now := s.now + seconds }
  | .clock => if s.loopAt = .start then some { s with loopAt := .check s.now } else none
  | .check =>
    match s.loopAt with
    | .check n => some (s.checked n)
    | _ => none
  | .resetOpen =>
    match s.loopAt with
    | .resetOpen n => some { s with circuitOpenUntil := 0, loopAt := .resetFailures n }
    | _ => none
  | .resetFailures =>
    match s.loopAt with
    | .resetFailures n => some { s with consecutiveFailures := 0, loopAt := .claim n }
    | _ => none
  | .claimed ok =>
    match s.loopAt with
    | .claim n => some { s with loopAt := if ok then .read n else .stopped }
    | _ => none
  | .readDone entries =>
    match s.loopAt with
    | .read n => some { s with loopAt :=
        match entries with
        | none => .stopped
        | some [] => .start
        | some attempts => .spawn n attempts }
    | _ => none
  | .spawn =>
    match s.loopAt with
    | .spawn n (attempt :: rest) =>
      if 0 < s.permits then
        some { s with
          permits := s.permits - 1
          tasks := s.tasks ++ [.running n attempt]
          loopAt := if rest = [] then .start else .spawn n rest }
      else none
    | _ => none
  | .finish i result =>
    match s.tasks[i]? with
    | some (.running n attempt) => some (s.finished P i n attempt result)
    | _ => none
  | .store i =>
    match s.tasks[i]? with
    | some .succeeded => some ({ s with circuitOpenUntil := 0 }.setTask i .finishing)
    | some (.counted n) =>
      some ({ s with circuitOpenUntil := n + cooldownSecs }.setTask i .finishing)
    | _ => none
  | .exit i =>
    match s.tasks[i]? with
    | some .finishing => some ({ s with permits := s.permits + 1 }.setTask i .gone)
    | _ => none

/-- A run by steps that meet a condition. -/
inductive Run (ok : State → Event → Prop) : State → List Event → State → Prop
  | nil (s : State) : Run ok s [] s
  | cons {s t u : State} {e : Event} {events : List Event} (hok : ok s e)
      (hstep : step P s e = some t) (hrest : Run ok t events u) : Run ok s (e :: events) u

variable {P}

/-- Run a list of events that all meet a condition. -/
def play (ok : State → Event → Prop) [∀ s e, Decidable (ok s e)] (s : State) :
    List Event → Option State
  | [] => some s
  | e :: events => if ok s e then (step P s e).bind fun t => play ok t events else none

theorem Run.of_play {ok : State → Event → Prop} [∀ s e, Decidable (ok s e)] {s t : State}
    {events : List Event} (h : play (P := P) ok s events = some t) : Run P ok s events t := by
  induction events generalizing s with
  | nil =>
    cases h
    exact .nil _
  | cons e events ih =>
    rw [play] at h
    split at h
    · next hok =>
      obtain ⟨u, hu, hrest⟩ := Option.bind_eq_some_iff.1 h
      exact .cons hok hu (ih hrest)
    · cases h

end KlassGateway.Queue.Breaker
