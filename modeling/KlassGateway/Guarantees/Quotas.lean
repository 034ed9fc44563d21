import KlassGateway.Governance.Preflight
import Mathlib.Algebra.Order.Ring.Rat
import Mathlib.Tactic.Linarith
/-!
# Quotas

* `follows_governedCall`: a request is allowed only when each of its policies has passed a check.
* `quotas_kept`: the limits hold in every run in which each request that is allowed still relies
  on what its checks have read.
* `quotas_exceeded`: two requests that check before the first one is recorded are both allowed,
  and a limit on tokens stops nobody.
-/

namespace KlassGateway.Governance

open Lib

/-! ## What a request has checked -/

/-- A check of the policy has passed. -/
def CheckedRequest.Passed (l : CheckedRequest) (policy : RateLimitPolicy) (now : DateTime) : Prop :=
  ∃ bucket, ⟨policy, now, bucket⟩ ∈ l.checks ∧
    exhausts l.request.estimatedCost policy bucket = false

theorem requests_of_passed {cost : Rat} {policy : RateLimitPolicy} {bucket : RateLimitBucket}
    (h : exhausts cost policy bucket = false) {max : Int} (hmax : policy.maxRequests = some max) :
    bucket.requestCount + 1 ≤ max := by
  unfold exhausts at h
  rw [Bool.or_eq_false_iff, hmax] at h
  exact not_lt.1 (of_decide_eq_false h.1)

theorem cost_of_passed {cost : Rat} {policy : RateLimitPolicy} {bucket : RateLimitBucket}
    (h : exhausts cost policy bucket = false) {max : Rat}
    (hmax : policy.maxEstimatedCostUsd = some max) : bucket.estimatedCostUsd + cost ≤ max := by
  unfold exhausts at h
  rw [Bool.or_eq_false_iff, hmax] at h
  exact not_lt.1 (by simpa using h.2)

/-- A request is allowed when all its policies have passed. -/
def governanceSpec : OpSpec governanceOps CheckedRequest where
  pre
    | l, .decided policies now decision =>
      decision.action = .allow → ∀ policy ∈ policies, l.Passed policy now
    | _, _ => True
  step l o answer l' := l' = l.after o answer

theorem exhaustedDecision_ne_allow (route : String) :
    (exhaustedDecision route).action ≠ .allow := by
  unfold exhaustedDecision
  dsimp only
  split
  · decide
  · split
    · decide
    · decide

/-- The loop allows a request when all policies have passed, those of the rounds before too. -/
theorem follows_checkPolicies {r : GovernedRequest} {now : DateTime}
    {before policies : List RateLimitPolicy} {l : CheckedRequest} (hl : l.request = r)
    (hbefore : ∀ policy ∈ before, l.Passed policy now) :
    (checkPolicies r now policies).wp governanceSpec
      (fun result l' => ∀ decision, result = .ok decision → decision.action = .allow →
        ∀ policy ∈ before ++ policies, l'.Passed policy now) l := by
  induction policies generalizing before l with
  | nil =>
    intro decision _ _
    rw [List.append_nil]
    exact hbefore
  | cons policy policies ih =>
    refine ⟨trivial, fun answer l' hl' => ?_⟩
    subst hl'
    cases answer with
    | none => exact trivial
    | some result =>
      cases result with
      | error e =>
        intro decision hdecision
        cases hdecision
      | ok bucket =>
        by_cases hexhausts : exhausts r.estimatedCost policy bucket = true
        · dsimp only
          rw [if_pos hexhausts]
          refine ⟨trivial, fun answer l' _ => ?_⟩
          cases answer with
          | none => exact trivial
          | some result =>
            cases result with
            | error e =>
              intro decision hdecision
              cases hdecision
            | ok bucket =>
              intro decision hdecision hallow
              cases hdecision
              exact absurd hallow (exhaustedDecision_ne_allow r.route)
        · dsimp only
          rw [if_neg hexhausts]
          have hpassed : ∀ p ∈ before ++ [policy],
              (l.after (.check policy now) (some (.ok bucket))).Passed p now := by
            intro p hp
            rcases List.mem_append.1 hp with hold | hnew
            · obtain ⟨b, hb, hpasses⟩ := hbefore p hold
              exact ⟨b, List.mem_cons_of_mem _ hb, hpasses⟩
            · rw [List.mem_singleton.1 hnew]
              refine ⟨bucket, List.mem_cons_self, ?_⟩
              change exhausts l.request.estimatedCost policy bucket = false
              rw [hl]
              exact Bool.eq_false_iff.2 hexhausts
          have hrest := ih (l := l.after (.check policy now) (some (.ok bucket))) hl hpassed
          rw [List.append_assoc] at hrest
          exact hrest

theorem follows_recordAll (usage : Usage) (policies : List RateLimitPolicy) (l : CheckedRequest) :
    (recordAll usage policies).wp governanceSpec (fun _ _ => True) l := by
  induction policies generalizing l with
  | nil => exact trivial
  | cons policy policies ih =>
    refine ⟨trivial, fun now l' _ => ⟨trivial, fun answer l'' _ => ?_⟩⟩
    cases answer with
    | none => exact trivial
    | some result => exact ih l''

theorem follows_served (r : GovernedRequest) (l : CheckedRequest) :
    (served r).wp governanceSpec (fun _ _ => True) l := by
  refine ⟨trivial, fun usage l' _ => ?_⟩
  cases usage with
  | none => exact trivial
  | some usage =>
    refine ⟨trivial, fun found l'' _ => ?_⟩
    cases found with
    | error e => exact trivial
    | ok policies => exact follows_recordAll _ policies l''

theorem follows_preflightCheck (r : GovernedRequest) :
    (preflightCheck r).wp governanceSpec (fun _ _ => True) ⟨r, []⟩ := by
  refine ⟨trivial, fun now l hl => ?_⟩
  subst hl
  refine ⟨trivial, fun found l hl => ?_⟩
  subst hl
  cases found with
  | error e => exact trivial
  | ok policies =>
    refine (Prog.wp_bind _ _ _ _).2 (Prog.wp_mono (fun result l (hpassed : ∀ decision,
      result = .ok decision → decision.action = .allow → ∀ policy ∈ policies,
        l.Passed policy now) => ?_) ?_)
    · cases result with
      | error e => exact trivial
      | ok decision => exact ⟨hpassed decision rfl, fun _ _ _ => trivial⟩
    · split
      · next hempty =>
        intro decision _ _ policy hpolicy
        rw [List.isEmpty_iff.1 hempty] at hpolicy
        exact absurd hpolicy List.not_mem_nil
      · have hnone : ∀ p ∈ ([] : List RateLimitPolicy), CheckedRequest.Passed ⟨r, []⟩ p now :=
          fun _ hp => absurd hp List.not_mem_nil
        exact follows_checkPolicies rfl hnone

/-- A request is allowed only when each of its policies has passed a check. -/
theorem follows_governedCall (r : GovernedRequest) :
    (governedCall r).wp governanceSpec (fun _ _ => True) ⟨r, []⟩ := by
  refine (Prog.wp_bind _ _ _ _).2 (Prog.wp_mono (fun result l _ => ?_) (follows_preflightCheck r))
  cases result with
  | error e => exact trivial
  | ok decision =>
    dsimp only
    split
    · exact trivial
    · exact follows_served r l

/-! ## Limits -/

/-- How many requests were allowed under a policy in its window at some time. -/
def allowedAt (allowed : List Allowance) (policy : RateLimitPolicy) (now : DateTime) : Nat :=
  allowed.countP fun a => policy ∈ a.policies ∧ policy.windowAt a.now = policy.windowAt now

/-- What the row of a policy has recorded in its window at some time. -/
def recordedAt {α : Type} [Zero α] (column : RateLimitBucket → α) (policy : RateLimitPolicy)
    (now : DateTime) (buckets : List RateLimitBucket) : α :=
  (bucketAt policy now buckets).elim 0 column

/-- What was recorded before a request was allowed is below the limits of a policy. -/
structure Allowance.Below (a : Allowance) (policy : RateLimitPolicy) : Prop where
  input : ∀ max, policy.maxInputTokens = some max →
    recordedAt RateLimitBucket.inputTokens policy a.now a.buckets < max
  output : ∀ max, policy.maxOutputTokens = some max →
    recordedAt RateLimitBucket.outputTokens policy a.now a.buckets < max
  total : ∀ max, policy.maxTotalTokens = some max →
    recordedAt RateLimitBucket.totalTokens policy a.now a.buckets < max
  cost : ∀ max, policy.maxEstimatedCostUsd = some max →
    recordedAt RateLimitBucket.estimatedCostUsd policy a.now a.buckets < max

/-- The quotas of a table: in no window more requests are allowed than a policy admits, and none
is allowed once a limit is reached. -/
structure QuotasKept (table : PolicyTable) (allowed : List Allowance) : Prop where
  requests : ∀ policy ∈ table.rows, ∀ max, policy.maxRequests = some max → ∀ now,
    allowedAt allowed policy now ≤ max
  limits : ∀ a ∈ allowed, ∀ policy ∈ a.policies, a.Below policy

/-! ## Runs -/

/-- A state of the requests and the tables. -/
abbrev GovernanceState (table : PolicyTable) : Type := (governance table).State

variable {table : PolicyTable}

/-- What a check has read still holds: the row counts every request that was allowed in the
window, the request costs something and nothing was spent since, and no limit but these two is
asked for. -/
structure Check.Current (w : Quotas) (estimatedCost : Rat) (check : Check) : Prop where
  requests : check.policy.maxRequests ≠ none →
    allowedAt w.allowed check.policy check.now ≤ check.bucket.requestCount
  cost : check.policy.maxEstimatedCostUsd ≠ none → 0 < estimatedCost ∧
    recordedAt RateLimitBucket.estimatedCostUsd check.policy check.now w.buckets ≤
      check.bucket.estimatedCostUsd
  tokens : check.policy.maxInputTokens = none ∧ check.policy.maxOutputTokens = none ∧
    check.policy.maxTotalTokens = none

instance (w : Quotas) (estimatedCost : Rat) (check : Check) :
    Decidable (check.Current w estimatedCost) :=
  decidable_of_iff (_ ∧ _ ∧ _)
    ⟨fun h => ⟨h.1, h.2.1, h.2.2⟩, fun h => ⟨h.requests, h.cost, h.tokens⟩⟩

/-- A call that may rely on the checks of its request: one that allows the request needs them. -/
def Relies (w : Quotas) (l : CheckedRequest) : GovernanceOp → Prop
  | .decided _ _ decision => decision.action = .allow →
      ∀ check ∈ l.checks, check.Current w l.request.estimatedCost
  | _ => True

instance decidableRelies (w : Quotas) (l : CheckedRequest) :
    (o : GovernanceOp) → Decidable (Relies w l o)
  | .decided _ _ decision => inferInstanceAs (Decidable (decision.action = .allow →
      ∀ check ∈ l.checks, check.Current w l.request.estimatedCost))
  | .now | .findApplicable _ _ _ | .check _ _ | .recordDenial _ _ _ _ | .recordUsage _ _ _
  | .serve => .isTrue trivial

/-- A request is only allowed while what its checks have read still holds. -/
def ChecksCurrent (s : GovernanceState table) (a : (governance table).Action) : Prop :=
  ∀ called ∈ (Pool.called s a).toList, Relies s.world called.1 called.2

instance (s : GovernanceState table) (a : (governance table).Action) :
    Decidable (ChecksCurrent s a) :=
  @List.decidableBAll (CheckedRequest × GovernanceOp)
    (fun called => Relies s.world called.1 called.2)
    (fun called => decidableRelies s.world called.1 called.2) (Pool.called s a).toList

/-- What a call does to the requests that were allowed. -/
theorem allowed_exec (w : Quotas) (o : GovernanceOp) (c : GovernanceChoice) :
    (w.exec table o c).2.allowed = w.allowed ∨
      ∃ policies now decision, o = .decided policies now decision ∧ decision.action = .allow ∧
        (w.exec table o c).2.allowed = ⟨policies, now, w.buckets⟩ :: w.allowed := by
  have hincrement : ∀ policy now after,
      (w.increment c.fault policy now after).2.allowed = w.allowed := by
    intro policy now after
    unfold Quotas.increment
    cases after with
    | none => rfl
    | some buckets => cases c.fault <;> rfl
  cases o with
  | now => exact .inl rfl
  | findApplicable route provider model =>
    left
    obtain ⟨now, fault, usage⟩ := c
    cases fault <;> rfl
  | check policy now => exact .inl (hincrement ..)
  | recordDenial policy requestId generationId now => exact .inl (hincrement ..)
  | recordUsage policy usage now => exact .inl (hincrement ..)
  | decided policies now decision =>
    by_cases hallow : decision.action = .allow
    · refine .inr ⟨policies, now, decision, rfl, hallow, ?_⟩
      unfold Quotas.exec
      dsimp only
      rw [if_pos hallow]
    · left
      unfold Quotas.exec
      dsimp only
      rw [if_neg hallow]
  | serve => exact .inl rfl

/-- One more request is allowed. -/
theorem QuotasKept.cons {w : Quotas} {l : CheckedRequest} {policies : List RateLimitPolicy}
    {now : DateTime} (h : QuotasKept table w.allowed)
    (hpassed : ∀ policy ∈ policies, l.Passed policy now)
    (hcurrent : ∀ check ∈ l.checks, check.Current w l.request.estimatedCost) :
    QuotasKept table (⟨policies, now, w.buckets⟩ :: w.allowed) := by
  constructor
  · intro policy hpolicy max hmax time
    have hold := h.requests policy hpolicy max hmax time
    unfold allowedAt at hold ⊢
    rw [List.countP_cons]
    split
    · next hunder =>
      obtain ⟨hmem, hwindow⟩ := of_decide_eq_true hunder
      obtain ⟨bucket, hcheck, hpasses⟩ := hpassed policy hmem
      have hcounts := (hcurrent _ hcheck).requests (by simp [hmax])
      have hlimit := requests_of_passed hpasses hmax
      unfold allowedAt at hcounts
      dsimp only at hcounts hwindow
      rw [hwindow] at hcounts
      push_cast
      omega
    · exact hold
  · intro a ha policy hpolicy
    rcases List.mem_cons.1 ha with rfl | hold
    · obtain ⟨bucket, hcheck, hpasses⟩ := hpassed policy hpolicy
      have hfresh := hcurrent _ hcheck
      obtain ⟨hinput, houtput, htotal⟩ := hfresh.tokens
      refine ⟨?_, ?_, ?_, ?_⟩
      · intro max hmax
        cases hinput.symm.trans hmax
      · intro max hmax
        cases houtput.symm.trans hmax
      · intro max hmax
        cases htotal.symm.trans hmax
      · intro max hmax
        obtain ⟨hpositive, hspent⟩ := hfresh.cost (by simp [hmax])
        have hlimit := cost_of_passed hpasses hmax
        dsimp only at hspent ⊢
        linarith
    · exact h.limits a hold policy hpolicy

/-- The limits have been kept so far. -/
def Quotas.Within (table : PolicyTable) (w : Quotas) : Prop := QuotasKept table w.allowed

/-- The limits hold in every run in which each request that is allowed relies on checks that
still hold. -/
theorem quotas_kept (table : PolicyTable) (buckets : List RateLimitBucket)
    {s : GovernanceState table}
    (h : Pool.Reach ChecksCurrent ((governance table).start { buckets }) s) :
    QuotasKept table s.world.allowed := by
  have hfollows : ∀ t, Pool.Reach ChecksCurrent ((governance table).start { buckets }) t →
      ∀ i u, t.tasks i = some u → u.prog.wp governanceSpec (fun _ _ => True) u.label := by
    intro t ht i u hu
    refine Pool.Reach.follows (fun _ _ _ => rfl) (fun w r w' spawned harr l p hmem => ?_) ht hu
    cases harr
    cases List.mem_singleton.1 hmem
    exact follows_governedCall r
  have hrun := h.with_invariant hfollows
  have hstart : Quotas.Within table { buckets } := by
    refine ⟨?_, ?_⟩
    · intro policy hpolicy max hmax now
      exact table.maxRequests_nonneg policy hpolicy max hmax
    · intro a ha
      exact absurd ha List.not_mem_nil
  refine hrun.world_invariant (fun t r w spawned _ harr ht => ?_)
    (fun t i c l o k hok hti ht => ?_) hstart
  · cases harr
    exact ht
  · obtain ⟨hcurrent, hprogs⟩ := hok
    rcases allowed_exec t.world o c with hsame | ⟨policies, now, decision, rfl, hallow, hmore⟩
    · change QuotasKept table (Quotas.exec table t.world o c).2.allowed
      rw [hsame]
      exact ht
    · change QuotasKept table (Quotas.exec table t.world _ c).2.allowed
      rw [hmore]
      refine QuotasKept.cons ht ((hprogs i _ hti).1 hallow) ?_
      have hcalled := hcurrent _ (Option.mem_toList.2 (Pool.called_act hti))
      exact hcalled hallow

/-! ## Concrete histories -/

theorem sampleDay_range : minDate ≤ 20648 ∧ 20648 ≤ maxDate := by decide

/-- The midnight at which the clock stands. -/
def sampleTime : DateTime := ⟨20648, ⟨0, 0, Nat.succ_pos _, Nat.succ_pos _⟩, sampleDay_range⟩

/-- A policy for all interpretations of a day. -/
def samplePolicy (maxRequests maxTotalTokens : Option Int) : RateLimitPolicy where
  id := 1
  scopeType := "route"
  route := "interpret"
  provider := "*"
  model := "*"
  windowUnit := "day"
  maxRequests := maxRequests
  maxInputTokens := none
  maxOutputTokens := none
  maxTotalTokens := maxTotalTokens
  maxEstimatedCostUsd := none
  enabled := true

/-- One request a day. -/
def oneRequest : PolicyTable where
  rows := [samplePolicy (some 1) none]
  maxRequests_nonneg := by decide +kernel

/-- Ten tokens a day. -/
def tenTokens : PolicyTable where
  rows := [samplePolicy none (some 10)]
  maxRequests_nonneg := by decide +kernel

/-- A request for an interpretation. -/
def sampleRequest : GovernedRequest where
  route := "interpret"
  provider := "minimax"
  model := "minimax-m3"
  projectedCostUsd := some (mkRat 85 100000000)
  requestId := "req"
  generationId := "gen"

/-- The arrival of the sample request. -/
def arrives : (governance table).Action := .arrive sampleRequest

/-- The next `n` calls of a request, which all succeed; the provider uses 100 tokens. -/
def calls (i n : Nat) : List (governance table).Action :=
  List.replicate n (.act i
    { now := sampleTime
      fault := .none
      usage := some ⟨60, 40, 100, mkRat 22 1000000, "", ""⟩ })

/-- The first request of the day is allowed and recorded, and the second one is not allowed. -/
theorem quotas_kept_sample : ∃ s : GovernanceState oneRequest,
    Pool.Reach ChecksCurrent ((governance oneRequest).start ⟨[], []⟩) s ∧
      s.world.allowed.length = 1 ∧ QuotasKept oneRequest s.world.allowed := by
  have hplay : ((Pool.play ChecksCurrent ((governance oneRequest).start ⟨[], []⟩)
      (arrives :: calls 0 8 ++ arrives :: calls 1 5)).map fun s => s.world.allowed.length) =
      some 1 := by decide +kernel
  obtain ⟨s, hs, hlength⟩ := Pool.exists_of_play hplay
  exact ⟨s, hs, hlength, quotas_kept oneRequest [] hs⟩

/-- Two requests that both check before one is allowed are two of one, and after 100 tokens
another request is allowed under a limit of ten. -/
theorem quotas_exceeded :
    (∃ s : GovernanceState oneRequest,
      Pool.Reach (fun _ _ => True) ((governance oneRequest).start ⟨[], []⟩) s ∧
        ¬ QuotasKept oneRequest s.world.allowed) ∧
    ∃ s : GovernanceState tenTokens,
      Pool.Reach (fun _ _ => True) ((governance tenTokens).start ⟨[], []⟩) s ∧
        ¬ QuotasKept tenTokens s.world.allowed := by
  constructor
  · have hplay : ((Pool.play (fun _ _ => True) ((governance oneRequest).start ⟨[], []⟩)
        (arrives :: arrives :: calls 0 3 ++ calls 1 3 ++ calls 0 1 ++ calls 1 1)).map fun s =>
          allowedAt s.world.allowed (samplePolicy (some 1) none) sampleTime) = some 2 := by
      decide +kernel
    obtain ⟨s, hs, htwo⟩ := Pool.exists_of_play hplay
    refine ⟨s, hs, fun h => ?_⟩
    have hle := h.requests _ List.mem_cons_self 1 rfl sampleTime
    rw [htwo] at hle
    omega
  · have hplay : ((Pool.play (fun _ _ => True) ((governance tenTokens).start ⟨[], []⟩)
        (arrives :: calls 0 8 ++ arrives :: calls 1 4)).map fun s =>
          s.world.allowed.head?.map fun a => (a.policies,
            recordedAt RateLimitBucket.totalTokens (samplePolicy none (some 10)) a.now a.buckets)) =
        some (some ([samplePolicy none (some 10)], 100)) := by
      decide +kernel
    obtain ⟨s, hs, hhead⟩ := Pool.exists_of_play hplay
    obtain ⟨a, ha, hdata⟩ := Option.map_eq_some_iff.1 hhead
    obtain ⟨hpolicies, hrecorded⟩ := Prod.mk.inj hdata
    refine ⟨s, hs, fun h => ?_⟩
    have hpolicy : samplePolicy none (some 10) ∈ a.policies := by
      rw [hpolicies]
      exact List.mem_cons_self
    have hlt := (h.limits a (List.mem_of_head? ha) _ hpolicy).total 10 rfl
    rw [hrecorded] at hlt
    omega

end KlassGateway.Governance
