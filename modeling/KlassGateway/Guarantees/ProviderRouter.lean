import KlassGateway.Providers.Router
/-!
# The circuit breaker of the provider router

An open circuit answers every call without asking a provider, and only an answer of
a provider resets the counter, so that it stays open.

* `breaker_recovers_iff`: over a sequence of calls the circuit is open when it should
  be, and can recover, exactly if it never opens: no `threshold` calls in a row fail on
  every configured provider.
* `breaker_stuck`: two failed calls and a threshold of two.
-/

namespace KlassGateway.Providers

namespace ProviderRouter

variable {R : Type} (r : ProviderRouter)

/-- A call that a healthy primary provider answers at the first attempt. -/
def Healthy (call : Call R) : Prop := ∀ attempt, (call.primary attempt).isOk

/-- What the breaker is for, after some calls: it is open exactly when the last
`threshold` calls that reached the providers failed on every one of them, and then some
calls with a healthy provider close it, so that the next call reaches the primary
provider. -/
structure Recovers (calls : List (Call R)) : Prop where
  opens : r.openAfter calls ↔
    r.circuitBreakerThreshold.toNat ≤ r.failuresInARow (r.after calls).tried
  closes : r.openAfter calls → ∃ more : List (Call R), (∀ c ∈ more, Healthy c) ∧
    r.openAfter (calls ++ more) = false ∧
      ∀ c : Call R, (r.complete (r.after (calls ++ more)).failures c).reachesPrimary

/-- As many calls in a row as the threshold says fail on every configured provider. -/
def FailsThreshold (calls : List (Call R)) : Prop :=
  ∃ before failed rest : List (Call R), calls = before ++ failed ++ rest ∧
    failed.length = r.circuitBreakerThreshold.toNat ∧ ∀ c ∈ failed, r.failsEverywhere c

theorem openAfter_iff (calls : List (Call R)) : r.openAfter calls ↔
    r.circuitBreakerThreshold.toNat ≤ r.failuresInARow (r.after calls).tried := by
  rw [← r.failures_after]
  simp [openAfter, isCircuitOpen, UInt32.le_iff_toNat_le]

/-- The last calls of a list, as many as fail in a row. -/
theorem exists_failed {calls : List (Call R)} {n : Nat} (h : n ≤ r.failuresInARow calls) :
    ∃ before failed, calls = before ++ failed ∧ failed.length = n ∧
      ∀ c ∈ failed, r.failsEverywhere c := by
  induction calls using List.reverseRecOn generalizing n with
  | nil =>
    have hn : n = 0 := Nat.le_zero.1 h
    exact ⟨[], [], rfl, hn.symm, by simp⟩
  | append_singleton calls c ih =>
    rw [failuresInARow_snoc] at h
    cases n with
    | zero => exact ⟨calls ++ [c], [], by simp, rfl, by simp⟩
    | succ n =>
      by_cases hfails : r.failsEverywhere c
      · rw [if_pos hfails] at h
        obtain ⟨before, failed, hcalls, hlength, hall⟩ := ih (Nat.le_of_succ_le_succ h)
        refine ⟨before, failed ++ [c], ?_, by simp [hlength], ?_⟩
        · rw [hcalls, List.append_assoc]
        · intro d hd
          rcases List.mem_append.1 hd with hd | hd
          · exact hall d hd
          · rw [List.mem_singleton.1 hd]
            exact hfails
      · rw [if_neg hfails] at h
        omega

/-- Failures in a row raise the counter by one each, unless the circuit is open. -/
theorem failures_of_failed {before failed : List (Call R)}
    (hall : ∀ c ∈ failed, r.failsEverywhere c) : r.openAfter (before ++ failed) ∨
      (r.after (before ++ failed)).failures.toNat =
        (r.after before).failures.toNat + failed.length := by
  induction failed using List.reverseRecOn with
  | nil => exact .inr (by simp)
  | append_singleton failed c ih =>
    have hc : r.failsEverywhere c := hall c (by simp)
    rcases ih fun d hd => hall d (List.mem_append_left _ hd) with hopen | hcount
    · left
      have hsame := r.openAfter_append hopen [c]
      rw [← List.append_assoc]
      unfold openAfter at hopen ⊢
      rw [hsame]
      exact hopen
    · cases hstate : r.openAfter (before ++ failed) with
      | true =>
        left
        have hsame := r.openAfter_append hstate [c]
        rw [← List.append_assoc]
        unfold openAfter at hstate ⊢
        rw [hsame]
        exact hstate
      | false =>
        right
        rw [← List.append_assoc, after_snoc, r.call_of_closed hstate]
        dsimp only
        rw [if_pos hc, r.toNat_succ_of_closed hstate, hcount, List.length_append]
        simp
        omega

/-- The circuit is open once as many calls in a row as the threshold says have failed. -/
theorem openAfter_of_failed {before failed : List (Call R)}
    (hlength : failed.length = r.circuitBreakerThreshold.toNat)
    (hall : ∀ c ∈ failed, r.failsEverywhere c) : r.openAfter (before ++ failed) := by
  rcases r.failures_of_failed hall with hopen | hcount
  · exact hopen
  · have hle : r.circuitBreakerThreshold.toNat ≤ (r.after (before ++ failed)).failures.toNat := by
      omega
    simpa [openAfter, isCircuitOpen, UInt32.le_iff_toNat_le] using hle

/-- An open circuit has seen that many failures in a row. -/
theorem failsThreshold_of_open {calls : List (Call R)} (hopen : r.openAfter calls) :
    r.FailsThreshold calls := by
  obtain ⟨rest, hrest⟩ := r.exists_untried calls
  obtain ⟨before, failed, htried, hlength, hall⟩ :=
    r.exists_failed ((r.openAfter_iff calls).1 hopen)
  exact ⟨before, failed, rest, by rw [← htried, ← hrest], hlength, hall⟩

/-- The breaker does what it is for after every call exactly if it never opens. -/
theorem breaker_recovers_iff (calls : List (Call R)) :
    (∀ done todo, calls = done ++ todo → r.Recovers done) ↔ ¬ r.FailsThreshold calls := by
  constructor
  · rintro h ⟨before, failed, rest, hcalls, hlength, hall⟩
    have hopen : r.openAfter (before ++ failed) := r.openAfter_of_failed hlength hall
    obtain ⟨more, _, hclosed, _⟩ := (h (before ++ failed) rest hcalls).closes hopen
    unfold openAfter at hopen hclosed
    rw [r.openAfter_append hopen, hopen] at hclosed
    cases hclosed
  · intro h done todo hcalls
    refine ⟨r.openAfter_iff done, ?_⟩
    intro hopen
    obtain ⟨before, failed, rest, hdone, hfailed⟩ := r.failsThreshold_of_open hopen
    refine absurd ⟨before, failed, rest ++ todo, ?_, hfailed⟩ h
    rw [hcalls, hdone, List.append_assoc]

/-- A call during an outage of the provider. -/
def outage : Call Unit where
  primary _ := .error (.api 500 "outage")
  fallback _ := .error (.api 500 "outage")

/-- After two calls during an outage the circuit is open, and no calls close it. -/
theorem breaker_stuck :
    ¬ Recovers { circuitBreakerThreshold := 2 } [outage, outage] := by
  intro h
  have hopen : openAfter { circuitBreakerThreshold := 2 } [outage, outage] := by decide
  obtain ⟨more, _, hclosed, _⟩ := h.closes hopen
  unfold openAfter at hopen hclosed
  rw [openAfter_append _ hopen, hopen] at hclosed
  cases hclosed

end ProviderRouter

end KlassGateway.Providers
