import Mathlib.Data.List.Induction
/-!
# The provider router

Model of `providers/router.rs`: retries, the fallback provider and the circuit
breaker.  The answers of the providers are arguments, one for each attempt; the
pauses between attempts are left out.  The calls of `complete` do not overlap here,
so that the counter is read and written without another call in between.

* `complete_failures` says what a call does to the counter.
* `failures_after`: the counter is the number of calls in a row, up to the last one
  that reached the providers, that failed on every one of them.
* `openAfter_append`: an open circuit stays open.
-/

namespace KlassGateway.Providers

/-- `ProviderError`. -/
inductive ProviderError where
  | http (message : String)
  | api (status : UInt16) (body : String)
  | deserialization (message : String)
  | allExhausted (attempts : UInt32) (reason : String)
  | config (message : String)
  deriving DecidableEq

/-- `Display` of `ProviderError`. -/
def ProviderError.toText : ProviderError → String
  | http m => "HTTP transport error: " ++ m
  | api status body => "API error (status=" ++ toString status ++ "): " ++ body
  | deserialization m => "Deserialization error: " ++ m
  | allExhausted attempts reason =>
    "All providers exhausted after " ++ toString attempts ++ " attempt(s): " ++ reason
  | config m => "Provider configuration error: " ++ m

/-- `ProviderRouter`, without its counter.  A provider is known by its answers. -/
structure ProviderRouter where
  /-- A fallback provider is configured. -/
  fallback : Bool := false
  maxAttempts : UInt32 := 3
  circuitBreakerThreshold : UInt32 := 5

/-- What the providers answer during a call of `complete`, attempt by attempt. -/
structure Call (R : Type) where
  primary : Nat → Except ProviderError R
  fallback : Nat → Except ProviderError R

/-- A call of `complete`: the counter afterwards, the result, and whether the primary
provider is tried. -/
structure Completion (R : Type) where
  failures : UInt32
  result : Except ProviderError R
  reachesPrimary : Bool

namespace ProviderRouter

variable {R : Type} (r : ProviderRouter)

/-- The loop of `try_provider_with_retry`, from an attempt on. -/
def tryFrom (answers : Nat → Except ProviderError R) :
    (remaining attempt : Nat) → (lastError : Option ProviderError) → Except ProviderError R
  | 0, _, lastError => .error (lastError.getD (.allExhausted r.maxAttempts "unknown error"))
  | remaining + 1, attempt, _ =>
    match answers attempt with
    | .ok response => .ok response
    | .error (.config m) => .error (.config m)
    | .error e => tryFrom answers remaining (attempt + 1) (some e)

/-- `try_provider_with_retry`. -/
def tryProviderWithRetry (answers : Nat → Except ProviderError R) : Except ProviderError R :=
  r.tryFrom answers r.maxAttempts.toNat 1 none

/-- `is_circuit_open`. -/
def isCircuitOpen (consecutiveFailures : UInt32) : Bool :=
  r.circuitBreakerThreshold ≤ consecutiveFailures

/-- `complete`. -/
def complete (consecutiveFailures : UInt32) (call : Call R) : Completion R :=
  if r.isCircuitOpen consecutiveFailures then
    { failures := consecutiveFailures
      result := .error
        (.allExhausted 0 "circuit breaker is open — too many consecutive failures")
      reachesPrimary := false }
  else
    match r.tryProviderWithRetry call.primary with
    | .ok response => { failures := 0, result := .ok response, reachesPrimary := true }
    | .error primaryErr =>
      let failed := consecutiveFailures + 1
      if r.fallback then
        match r.tryProviderWithRetry call.fallback with
        | .ok response => { failures := 0, result := .ok response, reachesPrimary := true }
        | .error fallbackErr =>
          { failures := failed
            result := .error (.allExhausted (r.maxAttempts * 2)
              ("primary: " ++ primaryErr.toText ++ ", fallback: " ++ fallbackErr.toText))
            reachesPrimary := true }
      else
        { failures := failed
          result := .error (.allExhausted r.maxAttempts primaryErr.toText)
          reachesPrimary := true }

/-! ## One call -/

/-- The call fails on every configured provider. -/
def failsEverywhere (call : Call R) : Bool :=
  !(r.tryProviderWithRetry call.primary).isOk &&
    (!r.fallback || !(r.tryProviderWithRetry call.fallback).isOk)

/-- A call leaves the counter of an open circuit; otherwise it counts the call or
resets the counter. -/
theorem complete_failures (failures : UInt32) (call : Call R) :
    (r.complete failures call).failures =
      if r.isCircuitOpen failures then failures
      else if r.failsEverywhere call then failures + 1 else 0 := by
  unfold complete failsEverywhere
  split
  · rfl
  · cases r.tryProviderWithRetry call.primary with
    | ok response => simp [Except.isOk, Except.toBool]
    | error e =>
      cases r.fallback with
      | false => simp [Except.isOk, Except.toBool]
      | true =>
        cases r.tryProviderWithRetry call.fallback with
        | ok response => simp [Except.isOk, Except.toBool]
        | error e' => simp [Except.isOk, Except.toBool]

/-- The primary provider is tried exactly while the circuit is closed. -/
theorem complete_reachesPrimary (failures : UInt32) (call : Call R) :
    (r.complete failures call).reachesPrimary = !r.isCircuitOpen failures := by
  unfold complete
  split
  · next hopen => simp [hopen]
  · next hclosed =>
    cases r.tryProviderWithRetry call.primary with
    | ok response => simp [hclosed]
    | error e =>
      cases r.fallback with
      | false => simp [hclosed]
      | true =>
        cases r.tryProviderWithRetry call.fallback with
        | ok response => simp [hclosed]
        | error e' => simp [hclosed]

/-! ## Many calls -/

/-- The state between two calls: the counter, and the calls so far that reached the
providers. -/
structure History (R : Type) where
  failures : UInt32 := 0
  tried : List (Call R) := []

/-- The state after one more call. -/
def call (h : History R) (c : Call R) : History R where
  failures := (r.complete h.failures c).failures
  tried := if (r.complete h.failures c).reachesPrimary then h.tried ++ [c] else h.tried

/-- The state after some calls. -/
def after (calls : List (Call R)) : History R := calls.foldl r.call {}

/-- The circuit is open after some calls. -/
def openAfter (calls : List (Call R)) : Bool := r.isCircuitOpen (r.after calls).failures

/-- How many calls in a row, up to the last one, fail on every configured provider. -/
def failuresInARow (calls : List (Call R)) : Nat :=
  (calls.reverse.takeWhile r.failsEverywhere).length

theorem after_snoc (calls : List (Call R)) (c : Call R) :
    r.after (calls ++ [c]) = r.call (r.after calls) c := by
  simp [after]

theorem failuresInARow_snoc (calls : List (Call R)) (c : Call R) :
    r.failuresInARow (calls ++ [c]) =
      if r.failsEverywhere c then r.failuresInARow calls + 1 else 0 := by
  unfold failuresInARow
  rw [List.reverse_append, List.reverse_singleton, List.singleton_append, List.takeWhile_cons]
  split
  · rfl
  · rfl

/-- A call to an open circuit changes nothing. -/
theorem call_of_open {h : History R} (hopen : r.isCircuitOpen h.failures) (c : Call R) :
    r.call h c = h := by
  have hfailures := r.complete_failures h.failures c
  have hreaches := r.complete_reachesPrimary h.failures c
  rw [hopen] at hfailures hreaches
  unfold call
  rw [hfailures, hreaches]
  rfl

/-- A call to a closed circuit reaches the providers. -/
theorem call_of_closed {h : History R} (hclosed : r.isCircuitOpen h.failures = false) (c : Call R) :
    r.call h c =
      { failures := if r.failsEverywhere c then h.failures + 1 else 0
        tried := h.tried ++ [c] } := by
  have hfailures := r.complete_failures h.failures c
  have hreaches := r.complete_reachesPrimary h.failures c
  rw [hclosed] at hfailures hreaches
  unfold call
  rw [hfailures, hreaches]
  rfl

/-- An open circuit stays open. -/
theorem openAfter_append {calls : List (Call R)} (hopen : r.openAfter calls)
    (more : List (Call R)) : r.after (calls ++ more) = r.after calls := by
  induction more using List.reverseRecOn with
  | nil => rw [List.append_nil]
  | append_singleton more c ih =>
    rw [← List.append_assoc, after_snoc, ih]
    exact r.call_of_open hopen c

/-- The counter does not wrap around below the threshold. -/
theorem toNat_succ_of_closed {failures : UInt32} (hclosed : r.isCircuitOpen failures = false) :
    (failures + 1).toNat = failures.toNat + 1 := by
  have hlt : failures.toNat < r.circuitBreakerThreshold.toNat := by
    simpa [isCircuitOpen, UInt32.le_iff_toNat_le] using hclosed
  have hsize : r.circuitBreakerThreshold.toNat < 2 ^ 32 := r.circuitBreakerThreshold.toNat_lt
  rw [UInt32.toNat_add]
  exact Nat.mod_eq_of_lt (by simp; omega)

/-- The counter is the number of failures in a row among the calls that reached the
providers. -/
theorem failures_after (calls : List (Call R)) :
    (r.after calls).failures.toNat = r.failuresInARow (r.after calls).tried := by
  induction calls using List.reverseRecOn with
  | nil => rfl
  | append_singleton calls c ih =>
    rw [after_snoc]
    cases hstate : r.isCircuitOpen (r.after calls).failures with
    | true =>
      rw [r.call_of_open hstate]
      exact ih
    | false =>
      rw [r.call_of_closed hstate]
      dsimp only
      rw [failuresInARow_snoc]
      by_cases hfails : r.failsEverywhere c
      · rw [if_pos hfails, if_pos hfails, r.toNat_succ_of_closed hstate, ih]
      · rw [if_neg hfails, if_neg hfails]
        rfl

/-- As long as the circuit is closed, every call has reached the providers. -/
theorem tried_of_closed {calls : List (Call R)} (hclosed : r.openAfter calls = false) :
    (r.after calls).tried = calls := by
  induction calls using List.reverseRecOn with
  | nil => rfl
  | append_singleton calls c ih =>
    have hbefore : r.openAfter calls = false := by
      cases hstate : r.openAfter calls with
      | false => rfl
      | true =>
        unfold openAfter at hclosed hstate
        rw [after_snoc, r.call_of_open hstate, hstate] at hclosed
        cases hclosed
    rw [after_snoc, r.call_of_closed hbefore]
    dsimp only
    rw [ih hbefore]

/-- The calls that reached the providers are the first ones. -/
theorem exists_untried (calls : List (Call R)) : ∃ rest, calls = (r.after calls).tried ++ rest := by
  induction calls using List.reverseRecOn with
  | nil => exact ⟨[], rfl⟩
  | append_singleton calls c ih =>
    cases hstate : r.isCircuitOpen (r.after calls).failures with
    | false =>
      refine ⟨[], ?_⟩
      rw [after_snoc, r.call_of_closed hstate, r.tried_of_closed hstate, List.append_nil]
    | true =>
      obtain ⟨rest, hrest⟩ := ih
      refine ⟨rest ++ [c], ?_⟩
      rw [after_snoc, r.call_of_open hstate, ← List.append_assoc, ← hrest]

end ProviderRouter

end KlassGateway.Providers
