import KlassGateway.Base
import KlassGateway.Governance.RateLimit
import KlassGateway.Lib.Typestate
/-!
# The check before an LLM call

Model of `preflight_check` in `governance/rate_limit.rs` and of the two places where a service
of `llm/` uses the quotas: the check before its call, and the recording after it.

The policies are rows of a table that no request writes.  The clock, the faults of the
statements and what a call has used are chosen at each call, so a service may record nothing:
its answer came from the cache, or the provider has failed.
-/

namespace KlassGateway.Governance

open Lib

/-! ## Decisions -/

/-- `ExhaustionAction`. -/
inductive ExhaustionAction where
  | allow
  | deny
  | degrade
  deriving DecidableEq

/-- `PreflightDecision`. -/
structure PreflightDecision where
  allowed : Bool
  action : ExhaustionAction

namespace PreflightDecision

/-- The decision when no limit is exceeded. -/
def allow : PreflightDecision := ⟨true, .allow⟩

end PreflightDecision

/-- `exhausted_decision`. -/
def exhaustedDecision (route : String) : PreflightDecision :=
  let action : ExhaustionAction :=
    if route = "interpret" then .deny else if route = "respond" then .degrade else .deny
  { allowed := action = .degrade, action }

/-! ## Calls -/

/-- A request as its service asks for it. -/
structure GovernedRequest where
  route : String
  provider : String
  model : String
  projectedCostUsd : Option Rat
  requestId : String
  generationId : String

/-- `estimated_cost`, by default 0.0001. -/
def GovernedRequest.estimatedCost (r : GovernedRequest) : Rat :=
  r.projectedCostUsd.getD (mkRat 1 10000)

/-- The calls of a request.  `check` is the increment that counts nothing, `decided` the return
of a decision, and `serve` what a service does between the decision and the recording. -/
inductive GovernanceOp where
  | now
  | findApplicable (route provider model : String)
  | check (policy : RateLimitPolicy) (now : DateTime)
  | recordDenial (policy : RateLimitPolicy) (requestId generationId : String) (now : DateTime)
  | recordUsage (policy : RateLimitPolicy) (usage : Usage) (now : DateTime)
  | decided (policies : List RateLimitPolicy) (now : DateTime) (decision : PreflightDecision)
  | serve

/-- The answer of an increment; `none` is a panic. -/
abbrev BucketAnswer : Type := Option (Except SqlxError RateLimitBucket)

/-- The answers. -/
abbrev GovernanceOp.Resp : GovernanceOp → Type
  | now => DateTime
  | findApplicable _ _ _ => Except SqlxError (List RateLimitPolicy)
  | check _ _ => BucketAnswer
  | recordDenial _ _ _ _ => BucketAnswer
  | recordUsage _ _ _ => BucketAnswer
  | decided _ _ _ => Unit
  | serve => Option Usage

/-- The calls with their answers. -/
def governanceOps : Interface := ⟨GovernanceOp, GovernanceOp.Resp⟩

/-! ## The check -/

/-- The two comparisons of `preflight_check`, one for requests and one for costs. -/
def exhausts (estimatedCost : Rat) (policy : RateLimitPolicy) (bucket : RateLimitBucket) : Bool :=
  policy.maxRequests.any (fun max => max < bucket.requestCount + 1) ||
    policy.maxEstimatedCostUsd.any fun max => max < bucket.estimatedCostUsd + estimatedCost

section Request

variable (r : GovernedRequest)

/-- The loop of `preflight_check`. -/
def checkPolicies (now : DateTime) :
    List RateLimitPolicy → Prog governanceOps (Except SqlxError PreflightDecision)
  | [] => .ret (.ok .allow)
  | policy :: policies => .op (.check policy now) fun
    | none => .abort
    | some (.error e) => .ret (.error e)
    | some (.ok bucket) =>
      if exhausts r.estimatedCost policy bucket then
        .op (.recordDenial policy r.requestId r.generationId now) fun
          | none => .abort
          | some (.error e) => .ret (.error e)
          | some (.ok _) => .ret (.ok (exhaustedDecision r.route))
      else checkPolicies now policies

/-- `preflight_check`. -/
def preflightCheck : Prog governanceOps (Except SqlxError PreflightDecision) :=
  .op .now fun now => .op (.findApplicable r.route r.provider r.model) fun
    | .error e => .ret (.error e)
    | .ok policies =>
      (if policies.isEmpty then .ret (.ok .allow) else checkPolicies r now policies).bind fun
        | .error e => .ret (.error e)
        | .ok decision => .op (.decided policies now decision) fun _ => .ret (.ok decision)

/-- The recording after a call, which ignores the errors of its statements. -/
def recordAll (usage : Usage) : List RateLimitPolicy → Prog governanceOps Unit
  | [] => .ret ()
  | policy :: policies => .op .now fun now => .op (.recordUsage policy usage now) fun
    | none => .abort
    | some _ => recordAll usage policies

/-- A service that goes on after the check. -/
def served : Prog governanceOps Unit :=
  .op .serve fun
    | none => .ret ()
    | some usage => .op (.findApplicable r.route r.provider r.model) fun
      | .error _ => .ret ()
      | .ok policies =>
        recordAll { usage with requestId := r.requestId, generationId := r.generationId } policies

/-- `interpret`, `respond` and `draft`, as far as the quotas go. -/
def governedCall : Prog governanceOps Unit :=
  (preflightCheck r).bind fun
    | .error _ => .ret ()
    | .ok decision => if decision.action = .deny then .ret () else served r

end Request

/-! ## Requests beside each other -/

/-- The window of a policy at some time. -/
def RateLimitPolicy.windowAt (policy : RateLimitPolicy) (now : DateTime) : Option DateTime :=
  windowStart now (WindowUnit.ofText policy.windowUnit)

/-- `llm_rate_limit_policies`, with its constraint on the requests. -/
structure PolicyTable where
  rows : List RateLimitPolicy
  maxRequests_nonneg : ∀ p ∈ rows, ∀ max, p.maxRequests = some max → 0 ≤ max

/-- A request that was allowed: its policies, the time of its check, and the buckets at the
moment of the decision. -/
structure Allowance where
  policies : List RateLimitPolicy
  now : DateTime
  buckets : List RateLimitBucket

/-- The buckets, and the requests that were allowed and not degraded. -/
structure Quotas where
  buckets : List RateLimitBucket
  allowed : List Allowance := []

/-- What happens to a statement: it works, it is not executed, or it is executed but its reply
is lost. -/
inductive StatementFault where
  | none
  | failed (e : SqlxError)
  | lost (e : SqlxError)

/-- What a call gets from outside. -/
structure GovernanceChoice where
  now : DateTime
  fault : StatementFault
  usage : Option Usage

/-- The row of a policy in its window at some time. -/
def bucketAt (policy : RateLimitPolicy) (now : DateTime) (buckets : List RateLimitBucket) :
    Option RateLimitBucket :=
  (policy.windowAt now).bind fun ws => Table.find RateLimitBucket.window (policy.id, ws) buckets

namespace Quotas

/-- An increment that leaves `after`.  It answers with the row that it has written, and panics
before the statement where the window has no end. -/
def increment (w : Quotas) (fault : StatementFault) (policy : RateLimitPolicy) (now : DateTime)
    (after : Option (List RateLimitBucket)) : BucketAnswer × Quotas :=
  match after with
  | none => (none, w)
  | some buckets =>
    match fault with
    | .failed e => (some (.error e), w)
    | .lost e => (some (.error e), { w with buckets })
    | .none => ((bucketAt policy now buckets).map .ok, { w with buckets })

/-- What the calls do. -/
def exec (table : PolicyTable) (w : Quotas) : (o : GovernanceOp) → GovernanceChoice →
    o.Resp × Quotas
  | .now, c => (c.now, w)
  | .findApplicable route provider model, c =>
    match c.fault with
    | .none => (.ok (findApplicable route provider model table.rows), w)
    | .failed e | .lost e => (.error e, w)
  | .check policy now, c =>
    w.increment c.fault policy now
      (Governance.increment policy (checkMutation policy) now w.buckets)
  | .recordDenial policy requestId generationId now, c =>
    w.increment c.fault policy now
      (Governance.recordDenial policy requestId generationId now w.buckets)
  | .recordUsage policy usage now, c =>
    w.increment c.fault policy now (Governance.recordUsage policy usage now w.buckets)
  | .decided policies now decision, _ =>
    ((), if decision.action = .allow then
        { w with allowed := ⟨policies, now, w.buckets⟩ :: w.allowed }
      else w)
  | .serve, c => (c.usage, w)

end Quotas

/-- A check that has got its answer: the policy, the time, and the row. -/
structure Check where
  policy : RateLimitPolicy
  now : DateTime
  bucket : RateLimitBucket

/-- A request with the checks that it has made. -/
structure CheckedRequest where
  request : GovernedRequest
  checks : List Check := []

namespace CheckedRequest

/-- A request after a call. -/
def after (l : CheckedRequest) : (o : GovernanceOp) → o.Resp → CheckedRequest
  | .check policy now, some (.ok bucket) => { l with checks := ⟨policy, now, bucket⟩ :: l.checks }
  | _, _ => l

end CheckedRequest

/-- Any number of requests beside each other, under the policies of a table. -/
def governance (table : PolicyTable) : Pool governanceOps where
  World := Quotas
  Choice := GovernanceChoice
  exec w o c := Quotas.exec table w o c
  Label := CheckedRequest
  Arrival := GovernedRequest
  relabel l o answer := l.after o answer
  arrive w r := some (w, [(⟨r, []⟩, governedCall r)])

end KlassGateway.Governance
