import KlassGateway.Queue.Breaker
import KlassGateway.System
/-!
# What the breaker of the worker guarantees

* `no_read_in_cooldown`: in a run in which failures are prompt, the worker reads nothing
  in the cooldown after a failure that reaches the threshold, unless a task succeeds.
* `reads_in_cooldown`: five tasks of one batch that fail after 70 seconds.

The proof follows the end of the cooldown that is due (`due`) beside the state: the loop
is past its check only when nothing is due, and otherwise `circuit_open_until` or a task
that is about to store it says so.
-/

namespace KlassGateway.Queue.Breaker

open Lib

variable {P : Platform}

/-! ## Failures and successes -/

/-- The event ends a task in the dead letters with a failure that reaches the threshold.
The value is the time that the task knows. -/
def reachesThreshold (P : Platform) (s : State) : Event → Option Nat
  | .finish i (.error errorMsg) =>
    match s.tasks[i]? with
    | some (.running n attempt) =>
      if endsInDlq P attempt errorMsg && decide (threshold ≤ s.consecutiveFailures + 1) then some n
      else none
    | _ => none
  | _ => none

/-- A task succeeds. -/
def Event.isSuccess : Event → Bool
  | .finish _ (.ok ()) => true
  | _ => false

/-- The iteration has passed its check and not yet read. -/
def LoopAt.reading : LoopAt → Bool
  | .resetOpen _ | .resetFailures _ | .claim _ | .read _ => true
  | _ => false

/-- A task that is about to open the circuit. -/
def TaskAt.isCounted : TaskAt → Bool
  | .counted _ => true
  | _ => false

/-- Failures that reach the threshold are prompt.  Such a failure is counted and stored in
the second that its task knows.  It does not happen while the loop is between its check and
the end of its read, or a success between its two stores, and the loop does not check
before it is stored. -/
def Prompt (P : Platform) (s : State) : Event → Prop
  | .finish i result => ∀ n ∈ reachesThreshold P s (.finish i result),
      n = s.now ∧ s.loopAt.reading = false ∧ TaskAt.succeeded ∉ s.tasks
  | .check => ∀ t ∈ s.tasks, t.isCounted = false
  | .store i => ∀ t ∈ s.tasks[i]?, t.isCounted → t = .counted s.now
  | _ => True

instance (s : State) : (e : Event) → Decidable (Prompt P s e)
  | .finish _ _ => inferInstanceAs (Decidable (∀ n ∈ _, _))
  | .check => inferInstanceAs (Decidable (∀ t ∈ s.tasks, _))
  | .store _ => inferInstanceAs (Decidable (∀ t ∈ _, _))
  | .tick _ | .clock | .resetOpen | .resetFailures | .claimed _ | .readDone _ | .spawn | .exit _ =>
    inferInstanceAs (Decidable True)

/-- The end of the cooldown that is due after an event: a success cancels it. -/
def due (P : Platform) (s : State) (d : Nat) (e : Event) : Nat :=
  if e.isSuccess then 0
  else if (reachesThreshold P s e).isSome then s.now + cooldownSecs else d

/-! ## The invariant -/

/-- The cooldown that is due is kept. -/
structure Kept (s : State) (d : Nat) : Prop where
  covered : d ≤ s.now ∨ d ≤ s.circuitOpenUntil ∨ ∃ t ∈ s.tasks, t.isCounted
  reading : s.loopAt.reading → d ≤ s.now
  clocked : ∀ n, s.loopAt = .check n → n ≤ s.now
  succeeded : TaskAt.succeeded ∈ s.tasks → d = 0
  bounded : d ≤ s.now + cooldownSecs

/-- Another task stays where it is. -/
theorem mem_set_of_ne {tasks : List TaskAt} {i : Nat} {t u v : TaskAt} (ht : t ∈ tasks)
    (hu : tasks[i]? = some u) (hne : t ≠ u) : t ∈ tasks.set i v := by
  obtain ⟨j, hj⟩ := List.mem_iff_getElem?.1 ht
  apply List.mem_of_getElem? (i := j)
  rw [List.getElem?_set_ne, hj]
  rintro rfl
  rw [hu] at hj
  exact hne (Option.some.inj hj).symm

namespace Kept

variable {s : State} {d : Nat}

theorem tick (h : Kept s d) (seconds : Nat) : Kept { s with now := s.now + seconds } d where
  covered := by
    rcases h.covered with hle | hopen | hcounted
    · exact .inl (by dsimp only; omega)
    · exact .inr (.inl hopen)
    · exact .inr (.inr hcounted)
  reading hr := by
    have hle := h.reading hr
    dsimp only
    omega
  clocked n hn := by
    have hle := h.clocked n hn
    dsimp only
    omega
  succeeded := h.succeeded
  bounded := by
    have hle := h.bounded
    dsimp only
    omega

/-- The loop goes on, and is past its check only if nothing is due. -/
theorem loop (h : Kept s d) {l : LoopAt} (hreading : l.reading → d ≤ s.now)
    (hclocked : ∀ n, l = .check n → n ≤ s.now) : Kept { s with loopAt := l } d where
  covered := h.covered
  reading := hreading
  clocked := hclocked
  succeeded := h.succeeded
  bounded := h.bounded

/-- A passed check means that nothing is due, if no failure waits to be stored. -/
theorem checked (h : Kept s d) {n : Nat} (hloop : s.loopAt = .check n)
    (hstored : ∀ t ∈ s.tasks, t.isCounted = false) : Kept (s.checked n) d := by
  have hn : n ≤ s.now := h.clocked n hloop
  have hcovered : d ≤ s.now ∨ d ≤ s.circuitOpenUntil := by
    rcases h.covered with hle | hopen | ⟨t, ht, hcounted⟩
    · exact .inl hle
    · exact .inr hopen
    · rw [hstored t ht] at hcounted
      cases hcounted
  unfold State.checked
  split
  · exact h.loop (fun hr => by cases hr) (fun m hm => by cases hm)
  · next hclosed =>
    have hle : d ≤ s.now := by omega
    split
    · exact h.loop (fun _ => hle) (fun m hm => by cases hm)
    · exact h.loop (fun _ => hle) (fun m hm => by cases hm)

/-- A task that is not in the middle of its stores goes on. -/
theorem task (h : Kept s d) {i : Nat} {t u : TaskAt} (ht : s.tasks[i]? = some t)
    (htc : t.isCounted = false) (hu : u ≠ .succeeded) : Kept (s.setTask i u) d where
  covered := by
    rcases h.covered with hle | hopen | ⟨v, hv, hcounted⟩
    · exact .inl hle
    · exact .inr (.inl hopen)
    · refine .inr (.inr ⟨v, mem_set_of_ne hv ht ?_, hcounted⟩)
      rintro rfl
      rw [htc] at hcounted
      cases hcounted
  reading := h.reading
  clocked := h.clocked
  succeeded hmem := by
    rcases List.mem_or_eq_of_mem_set hmem with hold | hnew
    · exact h.succeeded hold
    · exact absurd hnew.symm hu
  bounded := h.bounded

/-- A success cancels the cooldown. -/
theorem success {t : State} (hclocked : ∀ n, t.loopAt = .check n → n ≤ t.now) : Kept t 0 where
  covered := .inl (Nat.zero_le _)
  reading _ := Nat.zero_le _
  clocked := hclocked
  succeeded _ := rfl
  bounded := Nat.zero_le _

/-- A prompt failure makes a cooldown due, which its task is about to store. -/
theorem failure {i n : Nat} {u : TaskAt} (h : Kept s d) (hi : s.tasks[i]? = some u)
    (hreading : s.loopAt.reading = false) (hsucceeded : TaskAt.succeeded ∉ s.tasks) :
    Kept (s.setTask i (.counted n)) (s.now + cooldownSecs) where
  covered := by
    obtain ⟨hlt, _⟩ := List.getElem?_eq_some_iff.1 hi
    exact .inr (.inr ⟨.counted n, List.mem_set hlt _, rfl⟩)
  reading hr := by
    rw [State.setTask_loopAt, hreading] at hr
    cases hr
  clocked := h.clocked
  succeeded hmem := by
    rcases List.mem_or_eq_of_mem_set hmem with hold | hnew
    · exact absurd hold hsucceeded
    · cases hnew
  bounded := Nat.le_refl _

/-- A task opens the circuit for what is due. -/
theorem opened {i : Nat} (h : Kept s d) :
    Kept ({ s with circuitOpenUntil := s.now + cooldownSecs }.setTask i .finishing) d where
  covered := .inr (.inl h.bounded)
  reading := h.reading
  clocked := h.clocked
  succeeded hmem := by
    rcases List.mem_or_eq_of_mem_set hmem with hold | hnew
    · exact h.succeeded hold
    · cases hnew
  bounded := h.bounded

/-- Closing the circuit loses nothing if nothing is due. -/
theorem closed (h : Kept s d) (hle : d ≤ s.now) : Kept { s with circuitOpenUntil := 0 } d where
  covered := .inl hle
  reading := h.reading
  clocked := h.clocked
  succeeded := h.succeeded
  bounded := h.bounded

/-- The failures are counted elsewhere. -/
theorem failures (h : Kept s d) (n : Nat) : Kept { s with consecutiveFailures := n } d :=
  ⟨h.covered, h.reading, h.clocked, h.succeeded, h.bounded⟩

/-- The permits do not matter. -/
theorem permits (h : Kept s d) (n : Nat) : Kept { s with permits := n } d :=
  ⟨h.covered, h.reading, h.clocked, h.succeeded, h.bounded⟩

/-- A new task is in the middle of nothing. -/
theorem spawned (h : Kept s d) (n : Nat) (attempt : Int) :
    Kept { s with tasks := s.tasks ++ [.running n attempt] } d where
  covered := by
    rcases h.covered with hle | hopen | ⟨t, ht, hcounted⟩
    · exact .inl hle
    · exact .inr (.inl hopen)
    · exact .inr (.inr ⟨t, List.mem_append_left _ ht, hcounted⟩)
  reading := h.reading
  clocked := h.clocked
  succeeded hmem := by
    rcases List.mem_append.1 hmem with hold | hnew
    · exact h.succeeded hold
    · cases List.mem_singleton.1 hnew
  bounded := h.bounded

/-- A new iteration reads the clock. -/
theorem clock (h : Kept s d) : Kept { s with loopAt := .check s.now } d := by
  refine h.loop (fun hr => by cases hr) fun n hn => ?_
  cases hn
  exact Nat.le_refl _

/-- The loop goes on past its check. -/
theorem pass (h : Kept s d) (hreading : s.loopAt.reading) {l : LoopAt} (hl : ∀ n, l ≠ .check n) :
    Kept { s with loopAt := l } d :=
  h.loop (fun _ => h.reading hreading) fun n hn => absurd hn (hl n)

/-- The loop is at its start again, or goes on with its batch. -/
theorem batch (h : Kept s d) {l : LoopAt} (hreading : l.reading = false) (hl : ∀ n, l ≠ .check n) :
    Kept { s with loopAt := l } d := by
  refine h.loop (fun hr => ?_) fun n hn => absurd hn (hl n)
  rw [hreading] at hr
  cases hr

/-- The loop starts the next task of its batch. -/
theorem spawn (h : Kept s d) (n : Nat) (attempt : Int) (rest : List Int) (permits : Nat) :
    Kept { s with
      permits
      tasks := s.tasks ++ [.running n attempt]
      loopAt := if rest = [] then .start else .spawn n rest } d := by
  have hspawned := (h.spawned n attempt).permits permits
  split
  · exact hspawned.batch rfl fun m hm => by cases hm
  · exact hspawned.batch rfl fun m hm => by cases hm

end Kept

/-- The end of a task, by what it does to the failures. -/
theorem kept_finish {s : State} {d i n : Nat} {attempt : Int} {result : Except String Unit}
    (h : Kept s d) (hi : s.tasks[i]? = some (.running n attempt))
    (hprompt : Prompt P s (.finish i result)) :
    Kept (s.finished P i n attempt result) (due P s d (.finish i result)) := by
  cases result with
  | ok u => exact Kept.success h.clocked
  | error errorMsg =>
    have hreaches : reachesThreshold P s (.finish i (.error errorMsg)) =
        if endsInDlq P attempt errorMsg && decide (threshold ≤ s.consecutiveFailures + 1) then some n
        else none := by
      rw [reachesThreshold, hi]
    unfold State.finished due
    dsimp only
    by_cases hdlq : endsInDlq P attempt errorMsg
    · rw [if_pos hdlq]
      by_cases hthreshold : threshold ≤ s.consecutiveFailures + 1
      · rw [hdlq, Bool.true_and, if_pos (decide_eq_true hthreshold)] at hreaches
        obtain ⟨_, hreading, hsucceeded⟩ := hprompt n hreaches
        rw [hreaches]
        simp only [Event.isSuccess, Option.isSome_some, if_true, if_pos hthreshold]
        exact (h.failures _).failure hi hreading hsucceeded
      · rw [hdlq, Bool.true_and, if_neg (by simpa using hthreshold)] at hreaches
        rw [hreaches]
        simp only [Event.isSuccess, Option.isSome_none, if_neg hthreshold]
        exact (h.failures _).task hi rfl (by decide)
    · rw [if_neg hdlq]
      rw [Bool.not_eq_true] at hdlq
      rw [hdlq, Bool.false_and] at hreaches
      rw [hreaches]
      exact h.task hi rfl (by decide)

/-- The stores after the end of a task. -/
theorem kept_store {s s' : State} {d i : Nat} (h : Kept s d) (hprompt : Prompt P s (.store i))
    (hstep : step P s (.store i) = some s') : Kept s' d := by
  simp only [step] at hstep
  split at hstep
  · next hi =>
    cases hstep
    have hzero : d = 0 := h.succeeded (List.mem_of_getElem? hi)
    exact (h.closed (by omega)).task hi rfl (by decide)
  · next n hi =>
    cases hstep
    cases hprompt _ hi rfl
    exact h.opened
  · cases hstep

/-- Every step keeps the cooldown that is due, if failures are prompt. -/
theorem kept_step {s s' : State} {d : Nat} {e : Event} (h : Kept s d) (hprompt : Prompt P s e)
    (hstep : step P s e = some s') : Kept s' (due P s d e) := by
  cases e with
  | tick seconds =>
    cases hstep
    exact h.tick seconds
  | clock =>
    simp only [step] at hstep
    split at hstep
    · cases hstep
      exact h.clock
    · cases hstep
  | check =>
    simp only [step] at hstep
    split at hstep
    · next n hloop =>
      cases hstep
      exact h.checked hloop hprompt
    · cases hstep
  | resetOpen =>
    simp only [step] at hstep
    split at hstep
    · next n hloop =>
      cases hstep
      have hreading : s.loopAt.reading := by rw [hloop]; rfl
      exact (h.closed (h.reading hreading)).pass hreading fun m hm => by cases hm
    · cases hstep
  | resetFailures =>
    simp only [step] at hstep
    split at hstep
    · next n hloop =>
      cases hstep
      exact (h.failures 0).pass (by rw [hloop]; rfl) fun m hm => by cases hm
    · cases hstep
  | claimed ok =>
    simp only [step] at hstep
    split at hstep
    · next n hloop =>
      cases hstep
      exact h.pass (by rw [hloop]; rfl) fun m hm => by cases ok <;> cases hm
    · cases hstep
  | readDone entries =>
    simp only [step] at hstep
    split at hstep
    · next n hloop =>
      cases hstep
      exact h.pass (by rw [hloop]; rfl) fun m hm => by split at hm <;> cases hm
    · cases hstep
  | spawn =>
    simp only [step] at hstep
    split at hstep
    · next n attempt rest hloop =>
      split at hstep
      · cases hstep
        exact h.spawn n attempt rest _
      · cases hstep
    · cases hstep
  | finish i result =>
    simp only [step] at hstep
    split at hstep
    · next n attempt hi =>
      cases hstep
      exact kept_finish h hi hprompt
    · cases hstep
  | store i => exact kept_store h hprompt hstep
  | exit i =>
    simp only [step] at hstep
    split at hstep
    · next hi =>
      cases hstep
      exact (h.permits _).task hi rfl (by decide)
    · cases hstep

/-! ## Runs -/

/-- The worker when it starts. -/
def initial (now permits : Nat) : State := { now, permits }

theorem kept_initial (now permits : Nat) : Kept (initial now permits) 0 :=
  Kept.success fun _ hn => by cases hn

/-- A prompt run keeps a cooldown that is due, up to its successes. -/
theorem Run.kept {s s' : State} {events : List Event} (h : Run P (Prompt P) s events s') {d : Nat}
    (hs : Kept s d) : ∃ d', Kept s' d' ∧
      ((∀ e ∈ events, e.isSuccess = false) → d ≤ d') := by
  induction h generalizing d with
  | nil s => exact ⟨d, hs, fun _ => Nat.le_refl _⟩
  | @cons s t u e events hok hstep _ ih =>
    obtain ⟨d', hd', hle⟩ := ih (kept_step hs hok hstep)
    refine ⟨d', hd', ?_⟩
    intro hno
    have hne : e.isSuccess = false := hno e (List.mem_cons_self ..)
    have hmono : d ≤ due P s d e := by
      unfold due
      rw [hne]
      split
      · contradiction
      · split
        · exact hs.bounded
        · exact Nat.le_refl _
    exact Nat.le_trans hmono (hle fun e' he' => hno e' (List.mem_cons_of_mem _ he'))

/-- In every run in which failures are prompt, no read brings a message in the cooldown
after a failure that reaches the threshold, unless a task has succeeded in between. -/
theorem no_read_in_cooldown (P : Platform) {now permits : Nat} {s t u v : State}
    {before during : List Event} {e : Event} {attempts : List Int}
    (hbefore : Run P (Prompt P) (initial now permits) before s)
    (hprompt : Prompt P s e) (hstep : step P s e = some t)
    (hreaches : (reachesThreshold P s e).isSome)
    (hduring : Run P (Prompt P) t during u) (hread : step P u (.readDone (some attempts)) = some v)
    (hno : ∀ e' ∈ during, e'.isSuccess = false) : s.now + cooldownSecs ≤ u.now := by
  obtain ⟨d, hd, _⟩ := hbefore.kept (kept_initial now permits)
  have hdue : due P s d e = s.now + cooldownSecs := by
    unfold due
    rw [hreaches]
    cases e with
    | finish i result =>
      cases result with
      | ok _ => cases hreaches
      | error _ => rfl
    | _ => cases hreaches
  have ht := kept_step hd hprompt hstep
  rw [hdue] at ht
  obtain ⟨d', hd', hle⟩ := hduring.kept ht
  have hreading : u.loopAt.reading := by
    simp only [step] at hread
    split at hread
    · next n hloop =>
      rw [hloop]
      rfl
    · cases hread
  exact Nat.le_trans (hle hno) (hd'.reading hreading)

/-! ## Concrete runs -/

/-- An iteration of the loop that reads five jobs at their last attempt. -/
def readsFive : List Event :=
  [.clock, .check, .claimed true, .readDone (some [3, 3, 3, 3, 3]), .spawn, .spawn, .spawn, .spawn,
    .spawn]

/-- The first four tasks end in the dead letters. -/
def fourFail : List Event :=
  [.finish 0 (.error "renderer"), .finish 1 (.error "renderer"), .finish 2 (.error "renderer"),
    .finish 3 (.error "renderer")]

/-- The fifth does. -/
def fifthFails : Event := .finish 4 (.error "renderer")

/-- What the worker does after a failure at once: the circuit is open for a minute. -/
def afterCooldown : List Event :=
  [.store 4, .clock, .check, .tick 60, .clock, .check, .resetOpen, .resetFailures, .claimed true]

/-- Five tasks that fail at once: the next read is a minute later. -/
theorem no_read_in_cooldown_sample : ∃ u v : State,
    step asciiPlatform u (.readDone (some [1])) = some v ∧ 100 + cooldownSecs ≤ u.now := by
  have hplays : ((play (P := asciiPlatform) (Prompt asciiPlatform) (initial 100 5)
      (readsFive ++ fourFail)).bind fun s =>
        (step asciiPlatform s fifthFails).bind fun t =>
          (play (P := asciiPlatform) (Prompt asciiPlatform) t afterCooldown).bind fun u =>
            (step asciiPlatform u (.readDone (some [1]))).map fun _ =>
              (s.now, decide (Prompt asciiPlatform s fifthFails),
                (reachesThreshold asciiPlatform s fifthFails).isSome)) =
      some (100, true, true) := by decide +kernel
  obtain ⟨s, hs, hplays⟩ := Option.bind_eq_some_iff.1 hplays
  obtain ⟨t, ht, hplays⟩ := Option.bind_eq_some_iff.1 hplays
  obtain ⟨u, hu, hplays⟩ := Option.bind_eq_some_iff.1 hplays
  obtain ⟨v, hv, hdata⟩ := Option.map_eq_some_iff.1 hplays
  simp only [Prod.mk.injEq, decide_eq_true_eq] at hdata
  obtain ⟨hnow, hprompt, hreaches⟩ := hdata
  have hle := no_read_in_cooldown asciiPlatform (.of_play hs) hprompt ht hreaches (.of_play hu) hv
    (by decide)
  rw [hnow] at hle
  exact ⟨u, v, hv, hle⟩

/-- Five tasks that fail after 70 seconds: the cooldown is over before it begins, and the
worker reads the next job in the same second. -/
theorem reads_in_cooldown : ∃ s t u v : State,
    Run asciiPlatform (fun _ _ => True) (initial 100 5) (readsFive ++ [.tick 70] ++ fourFail) s ∧
      step asciiPlatform s fifthFails = some t ∧
      (reachesThreshold asciiPlatform s fifthFails).isSome ∧
      Run asciiPlatform (fun _ _ => True) t
        [.store 4, .clock, .check, .resetOpen, .resetFailures, .claimed true] u ∧
      step asciiPlatform u (.readDone (some [1])) = some v ∧ s.now = 170 ∧ u.now = 170 := by
  have hplays : ((play (P := asciiPlatform) (fun _ _ => True) (initial 100 5)
      (readsFive ++ [.tick 70] ++ fourFail)).bind fun s =>
        (step asciiPlatform s fifthFails).bind fun t =>
          (play (P := asciiPlatform) (fun _ _ => True) t
            [.store 4, .clock, .check, .resetOpen, .resetFailures, .claimed true]).bind fun u =>
              (step asciiPlatform u (.readDone (some [1]))).map fun _ =>
                ((reachesThreshold asciiPlatform s fifthFails).isSome, s.now, u.now)) =
      some (true, 170, 170) := by decide +kernel
  obtain ⟨s, hs, hplays⟩ := Option.bind_eq_some_iff.1 hplays
  obtain ⟨t, ht, hplays⟩ := Option.bind_eq_some_iff.1 hplays
  obtain ⟨u, hu, hplays⟩ := Option.bind_eq_some_iff.1 hplays
  obtain ⟨v, hv, hdata⟩ := Option.map_eq_some_iff.1 hplays
  simp only [Prod.mk.injEq] at hdata
  exact ⟨s, t, u, v, .of_play hs, ht, hdata.1, .of_play hu, hv, hdata.2.1, hdata.2.2⟩

end KlassGateway.Queue.Breaker
